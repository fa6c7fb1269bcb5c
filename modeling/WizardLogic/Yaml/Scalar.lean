import WizardLogic.Yaml.Cursor

/-!
# Scalars in YAML text

A scalar is written plainly, in quotes of either kind, or as a block of lines. In all forms, breaks
inside a scalar are folded: one break becomes a space, and of several the first is dropped. Only
literal blocks keep their lines.

A plain scalar ends where something else could begin; in brackets more can begin than outside. It
may go on over several lines as long as they are indented more than the block it stands in.
-/

namespace WizardLogic.Yaml.Scan

/-! ### Plain scalars -/

/-- Whether a plain scalar ends before a character, given the one behind it. -/
def endsPlain (inFlow : Bool) (c : Char) (following : Option Char) : Bool :=
  endsWord (some c) ||
    (c = ':' && (endsWord following ||
      (inFlow && (following.any fun d => [',', '[', ']', '{', '}'].contains d)))) ||
    (inFlow && [',', '?', '[', ']', '{', '}'].contains c)

/-- How many characters of a word of a plain scalar are ahead. -/
def plainLength (inFlow : Bool) : List Char → Nat
  | [] => 0
  | c :: rest => if endsPlain inFlow c rest.head? then 0 else plainLength inFlow rest + 1

/-- The breaks between two lines of a plain scalar; none at a mark between documents. -/
def plainBreaks : Nat → Scan (Option (List Char))
  | 0 => malformed
  | n + 1 => do
    match ← peek with
    | some c =>
      if c = ' ' then
        skip 1
        plainBreaks n
      else if isBreak c then
        let b ← lineBreak
        if (← get).atSeparator then return none
        else
          let more ← plainBreaks n
          return more.map (b ++ ·)
      else return some []
    | none => return some []

/-- What stands for the white space between two words of a plain scalar, and whether a line ended
there. It is empty where the scalar ends. -/
def plainSpaces : Scan (List Char × Bool) := do
  let spaces ← takeWhile (· = ' ')
  match ← peek with
  | some c =>
    if isBreak c then
      let b ← lineBreak
      if (← get).atSeparator then return ([], true)
      else
        match ← plainBreaks ((← get).rest.length + 1) with
        | none => return ([], true)
        | some more =>
          if b != ['\n'] then return (b ++ more, true)
          else if more.isEmpty then return ([' '], true)
          else return (more, true)
    else return (spaces, false)
  | none => return (spaces, false)

/-- The words of a plain scalar with what stands between them, after some white space, and whether
a line ended behind the last word. -/
def plainWords (inFlow : Bool) (indent : Int) : Nat → List Char → Bool → Scan (List Char × Bool)
  | 0, _, _ => malformed
  | n + 1, spaces, crossed => do
    let c ← get
    let length := plainLength inFlow c.rest
    if c.rest.head? = some '#' || length = 0 then return ([], crossed)
    else
      let word ← take length
      let (gap, crossed) ← plainSpaces
      let column : Int := (← get).column
      if gap.isEmpty || (← peek) = some '#' || (!inFlow && column < indent) then
        return (spaces ++ word, crossed)
      else
        let (more, crossed) ← plainWords inFlow indent n gap crossed
        return (spaces ++ word ++ more, crossed)

/-- A plain scalar, in a block of some indentation, and whether a line ended behind it. -/
def plainScalar (inFlow : Bool) (indent : Int) : Scan (String × Bool) := do
  let (cs, crossed) ← plainWords inFlow (indent + 1) ((← get).rest.length + 1) [] false
  return (String.ofList cs, crossed)

/-! ### Scalars in quotes -/

/-- The character that an escape of one letter stands for. -/
def escape? : Char → Option Char
  | '0' => some '\x00'
  | 'a' => some '\x07'
  | 'b' => some '\x08'
  | 't' | '\t' => some '\t'
  | 'n' => some '\n'
  | 'v' => some '\x0b'
  | 'f' => some '\x0c'
  | 'r' => some '\r'
  | 'e' => some '\x1b'
  | ' ' => some ' '
  | '"' => some '"'
  | '\\' => some '\\'
  | '/' => some '/'
  | 'N' => some '\u0085'
  | '_' => some '\u00a0'
  | 'L' => some '\u2028'
  | 'P' => some '\u2029'
  | _ => none

/-- How many digits follow an escape of a letter. -/
def escapeDigits? : Char → Option Nat
  | 'x' => some 2
  | 'u' => some 4
  | 'U' => some 8
  | _ => none

/-- The value of a hexadecimal digit. -/
def hexDigit? (c : Char) : Option Nat :=
  if '0' ≤ c && c ≤ '9' then some (c.toNat - 48)
  else if 'a' ≤ c && c ≤ 'f' then some (c.toNat - 87)
  else if 'A' ≤ c && c ≤ 'F' then some (c.toNat - 55)
  else none

/-- Reads a number of some hexadecimal digits. -/
def hexNumber (digits : Nat) : Scan Nat := do
  let cs ← take digits
  match cs.mapM hexDigit? with
  | some ds => if cs.length = digits then return ds.foldl (fun n d => n * 16 + d) 0 else malformed
  | none => malformed

/-- The character with a number. -/
def charOf (n : Nat) : Scan Char :=
  if n ≥ Nat.pow 2 31 then throw (Failure.fault .overflow)
  else if n > 0x10ffff then throw (Failure.fault .badValue)
  else return Char.ofNat n

/-- The breaks inside a scalar in quotes, with the white space around them dropped. -/
def quotedBreaks : Nat → Scan (List Char)
  | 0 => malformed
  | n + 1 => do
    if (← get).atSeparator then malformed
    let _ ← takeWhile fun c => c = ' ' || c = '\t'
    match ← peek with
    | some c =>
      if isBreak c then
        let b ← lineBreak
        let more ← quotedBreaks n
        return b ++ more
      else return []
    | none => return []

/-- What stands for white space inside a scalar in quotes. -/
def quotedSpaces : Scan (List Char) := do
  let spaces ← takeWhile fun c => c = ' ' || c = '\t'
  match ← peek with
  | none => malformed
  | some c =>
    if isBreak c then
      let b ← lineBreak
      let more ← quotedBreaks ((← get).rest.length + 1)
      if b != ['\n'] then return b ++ more
      else if more.isEmpty then return [' ']
      else return more
    else return spaces

/-- Whether a character of a scalar in quotes stands for itself wherever it is. -/
def isOrdinary (c : Char) : Bool :=
  c != '\'' && c != '"' && c != '\\' && !endsWord (some c)

/-- The characters of a scalar in quotes up to its closing quote. -/
def quotedText (double : Bool) : Nat → Scan (List Char)
  | 0 => malformed
  | n + 1 => do
    let ordinary ← takeWhile isOrdinary
    match ← peek with
    | none => malformed
    | some c =>
      if !double && c = '\'' then
        if (← peekAt 1) = some '\'' then
          skip 2
          let more ← quotedText double n
          return ordinary ++ '\'' :: more
        else
          skip 1
          return ordinary
      else if double && c = '"' then
        skip 1
        return ordinary
      else if double && c = '\\' then
        skip 1
        match ← peek with
        | none => malformed
        | some e =>
          let found ←
            match escape? e, escapeDigits? e with
            | some d, _ => do
              skip 1
              pure [d]
            | none, some digits => do
              skip 1
              pure [← charOf (← hexNumber digits)]
            | none, none =>
              if isBreak e then do
                let _ ← lineBreak
                quotedBreaks ((← get).rest.length + 1)
              else malformed
          let more ← quotedText double n
          return ordinary ++ found ++ more
      else if c = '\'' || c = '"' || c = '\\' then
        skip 1
        let more ← quotedText double n
        return ordinary ++ c :: more
      else
        let spaces ← quotedSpaces
        let more ← quotedText double n
        return ordinary ++ spaces ++ more

/-- A scalar in quotes, from its opening quote on. -/
def quotedScalar (double : Bool) : Scan String := do
  skip 1
  return String.ofList (← quotedText double (2 * (← get).rest.length + 2))

/-! ### Blocks of lines -/

/-- What becomes of the breaks at the end of a block: all but one are dropped, all are kept, or all
are dropped. -/
inductive Chomping
  | clip
  | keep
  | strip
deriving DecidableEq, Repr

/-- How breaks are chomped, if this is said here. -/
def chomping? : Scan (Option Chomping) := do
  match ← peek with
  | some '+' =>
    skip 1
    return some .keep
  | some '-' =>
    skip 1
    return some .strip
  | _ => return none

/-- How far a block is indented, if this is said here. -/
def increment? : Scan (Option Nat) := do
  match ← peek with
  | some c =>
    if c = '0' then malformed
    else if '1' ≤ c && c ≤ '9' then
      skip 1
      return some (c.toNat - 48)
    else return none
  | none => return none

/-- What the head of a block says. -/
def blockHead : Scan (Chomping × Option Nat) := do
  let head ←
    match ← chomping? with
    | some chomping => do pure (chomping, ← increment?)
    | none => do
      match ← increment? with
      | some n => do pure ((← chomping?).getD .clip, some n)
      | none => pure (.clip, none)
  if endsItem (← peek) then
    skipIgnoredLine
    return head
  else malformed

/-- The breaks before the first line of a block, and the widest indentation among them. -/
def blockIndentation : Nat → Nat → Scan (List Char × Nat)
  | 0, _ => malformed
  | n + 1, widest => do
    match ← peek with
    | some c =>
      if c = ' ' then
        skip 1
        blockIndentation n (max widest (← get).column)
      else if isBreak c then
        let b ← lineBreak
        let (more, widest) ← blockIndentation n widest
        return (b ++ more, widest)
      else return ([], widest)
    | none => return ([], widest)

/-- Goes on behind spaces up to a column. -/
def skipIndent (indent : Nat) : Scan Unit := do
  let c ← get
  let spaces := (c.rest.take (indent - c.column)).takeWhile (· = ' ')
  skip spaces.length

/-- The breaks before a line of a block. -/
def blockBreaks (indent : Nat) : Nat → Scan (List Char)
  | 0 => malformed
  | n + 1 => do
    skipIndent indent
    match ← peek with
    | some c =>
      if isBreak c then
        let b ← lineBreak
        let more ← blockBreaks indent n
        return b ++ more
      else return []
    | none => return []

/-- Whether a line of a block is here. -/
def atBlockLine (indent : Nat) : Scan Bool := do
  let c ← get
  return c.column = indent && !c.rest.isEmpty

/-- Whether a blank is here. -/
def atBlank : Scan Bool := do
  let c ← peek
  return c = some ' ' || c = some '\t'

/-- The lines of a block, after some breaks. -/
def blockLines (folded : Bool) (chomping : Chomping) (indent : Nat) :
    Nat → List Char → Scan (List Char)
  | 0, _ => malformed
  | n + 1, breaks => do
    let startsBlank ← atBlank
    let line ← takeWhile fun c => !isBreak c
    let b ← lineBreak
    let more ← blockBreaks indent ((← get).rest.length + 1)
    if ← atBlockLine indent then
      let between :=
        if folded && b = ['\n'] && !startsBlank && !(← atBlank) then
          if more.isEmpty then [' '] else []
        else b
      let rest ← blockLines folded chomping indent n more
      return breaks ++ line ++ between ++ rest
    else
      match chomping with
      | .clip => return breaks ++ line ++ b
      | .keep => return breaks ++ line ++ b ++ more
      | .strip => return breaks ++ line

/-- A block of lines in a block of some indentation, from its indicator on. -/
def blockScalar (folded : Bool) (outer : Int) : Scan String := do
  skip 1
  let (chomping, increment) ← blockHead
  let least := max 1 (outer + 1).toNat
  let fuel := (← get).rest.length + 1
  let (breaks, indent) ←
    match increment with
    | none => do
      let (breaks, widest) ← blockIndentation fuel 0
      pure (breaks, max least widest)
    | some k => do
      let indent := least + k - 1
      pure (← blockBreaks indent fuel, indent)
  if ← atBlockLine indent then
    return String.ofList (← blockLines folded chomping indent fuel breaks)
  else
    return String.ofList (if chomping = .keep then breaks else [])

end WizardLogic.Yaml.Scan
