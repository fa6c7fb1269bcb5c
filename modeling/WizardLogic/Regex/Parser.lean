import WizardLogic.Regex.Node
import WizardLogic.Number.Reading
import WizardLogic.Text.Identifier

/-!
# The notation of regular expressions

A pattern is read from left to right. Options for the whole pattern may only stand at its start;
options for a part stand in its group. A repetition needs something to repeat that is neither a
condition on the place nor itself a repetition. What looks back has to have a fixed width.

`parse` yields the expression, or says why there is none.
-/

namespace WizardLogic.Regex

/-- Why a pattern has no meaning. -/
inductive ParseFailure
  | malformed
  /-- A count of repetitions is out of range. -/
  | hugeCount
  /-- The options of the whole pattern ask for both alphabets. -/
  | twoAlphabets
deriving DecidableEq, Repr

/-- The options in force. -/
structure Options where
  ignoreCase : Bool := false
  multiline : Bool := false
  lineEnds : Bool := false
  verbose : Bool := false
  ascii : Bool := false
deriving DecidableEq, Repr

/-- What has been read so far of a pattern. -/
structure Reading where
  /-- The characters that are left. -/
  rest : List Char
  /-- The number that the next group gets. -/
  nextGroup : Nat
  names : List (String × Nat)
  /-- The widths of the groups that are closed. -/
  widths : List (Nat × Width)
  /-- Inside of what looks back: the number that the next group had outside of it. -/
  behindFrom : Option Nat
  /-- The groups that conditions refer to. -/
  conditions : List Nat

/-- A step of the reading. -/
abbrev Read (α : Type) := StateT Reading (Except ParseFailure) α

/-- The pattern is malformed. -/
def malformed {α : Type} : Read α := fun _ => .error .malformed

/-- The next character, left in place. -/
def peek : Read (Option Char) := do return (← get).rest.head?

/-- Drops so many characters. -/
def skip (n : Nat) : Read Unit := modify fun r => { r with rest := r.rest.drop n }

/-- Whether the characters follow; if so they are dropped. -/
def accept (cs : List Char) : Read Bool := do
  if cs.isPrefixOf (← get).rest then
    skip cs.length
    return true
  else return false

/-- The next character. -/
def take : Read Char := do
  match (← get).rest with
  | c :: rest =>
    modify fun r => { r with rest := rest }
    return c
  | [] => malformed

/-- The characters that satisfy a condition, at most so many. -/
def takeWhileUpTo (n : Nat) (f : Char → Bool) : Read (List Char) := do
  let cs := ((← get).rest.take n).takeWhile f
  skip cs.length
  return cs

/-- The characters up to a closing character, of which there has to be at least one. -/
def takeUntil (c : Char) : Read (List Char) := do
  let cs := (← get).rest.takeWhile (· != c)
  skip cs.length
  if cs.isEmpty then malformed
  else
    let _ ← take
    return cs

/-- The value of a hexadecimal digit. -/
def hexDigit? (c : Char) : Option Nat :=
  let n := c.toLower.toNat
  if 48 ≤ n ∧ n ≤ 57 then some (n - 48) else if 97 ≤ n ∧ n ≤ 102 then some (n - 87) else none

/-- Whether a character is an octal digit. -/
def isOctal (c : Char) : Bool := '0' ≤ c && c ≤ '7'

/-- The number that octal digits denote. -/
def octalValue (cs : List Char) : Nat := cs.foldl (fun n c => n * 8 + (c.toNat - 48)) 0

/-- The character with exactly so many hexadecimal digits as its code. -/
def takeHex (width : Nat) : Read Char := do
  let cs ← takeWhileUpTo width fun c => (hexDigit? c).isSome
  let n := cs.foldl (fun n c => n * 16 + (hexDigit? c).getD 0) 0
  if cs.length = width && n < 0x110000 then return Char.ofNat n else malformed

/-- The character of an escape with a letter that stands for one. -/
def letterEscape? : Char → Option Char
  | 'a' => some (Char.ofNat 7)
  | 'f' => some (Char.ofNat 12)
  | 'n' => some '\n'
  | 'r' => some '\r'
  | 't' => some '\t'
  | 'v' => some (Char.ofNat 11)
  | '\\' => some '\\'
  | _ => none

/-- The named class of an escape, and whether it is the complement. -/
def category? : Char → Option (Category × Bool)
  | 'd' => some (.digit, false)
  | 'D' => some (.digit, true)
  | 's' => some (.space, false)
  | 'S' => some (.space, true)
  | 'w' => some (.word, false)
  | 'W' => some (.word, true)
  | _ => none

/-- A literal character. -/
def literal (o : Options) (c : Char) : Node :=
  if o.ignoreCase && o.ascii then .set false [.char c] true true else .char c o.ignoreCase

/-- Whether a group has been closed and may be referred to here. -/
def checkReference (id : Nat) : Read Unit := do
  let r ← get
  if (r.widths.lookup id).isNone then malformed
  else match r.behindFrom with
    | some n => if id ≥ n then malformed else return ()
    | none => return ()

/-- A reference to a group by its number. -/
def groupReference (o : Options) (id : Nat) : Read Node := do
  checkReference id
  return .reference id o.ignoreCase o.ascii

/-- An escape that has the same meaning inside and outside of sets: a character by its code, or
one that is not a letter and stands for itself. -/
def takeCodeEscape (c : Char) : Read Char := do
  if c = 'x' then takeHex 2
  else if c = 'u' then takeHex 4
  else if c = 'U' then takeHex 8
  else if c.isAlpha || c.isDigit then malformed
  else return c

/-- What an escape outside of sets stands for, after its backslash. -/
def takeEscape (o : Options) : Read Node := do
  let c ← take
  match category? c with
  | some (kind, negated) => return .set false [.category kind negated] false o.ascii
  | none =>
    match letterEscape? c with
    | some d => return literal o d
    | none =>
      if c = 'A' then return .start false
      else if c = 'Z' then return .textEnd
      else if c = 'b' then return .boundary false o.ascii
      else if c = 'B' then return .boundary true o.ascii
      else if c = '0' then
        let ds ← takeWhileUpTo 2 isOctal
        return literal o (Char.ofNat (octalValue ds))
      else if c.isDigit then
        let more ← takeWhileUpTo 1 Char.isDigit
        let ds := c :: more
        let third := (← peek).any isOctal
        if ds.length = 2 && ds.all isOctal && third then
          let d ← take
          let n := octalValue (ds ++ [d])
          if n > 255 then malformed else return literal o (Char.ofNat n)
        else groupReference o (Number.digitsValue ds)
      else return literal o (← takeCodeEscape c)

/-- What an escape inside of a set stands for, after its backslash. -/
def takeSetEscape : Read SetItem := do
  let c ← take
  match letterEscape? c with
  | some d => return .char d
  | none =>
    if c = 'b' then return .char (Char.ofNat 8)
    else match category? c with
      | some (kind, negated) => return .category kind negated
      | none =>
        if isOctal c then
          let ds ← takeWhileUpTo 2 isOctal
          let n := octalValue (c :: ds)
          if n > 255 then malformed else return .char (Char.ofNat n)
        else return .char (← takeCodeEscape c)

/-- The next member of a set. -/
def takeSetMember : Read SetItem := do
  let c ← take
  if c = '\\' then takeSetEscape else return .char c

mutual

/-- The members of a set up to and with its closing bracket. -/
def takeSetItems : Nat → Read (List SetItem)
  | 0 => malformed
  | fuel + 1 => do
    if ← accept [']'] then return []
    else takeSetFrom fuel

/-- One member of a set or more, up to and with the closing bracket. A bracket that comes first is a
member. -/
def takeSetFrom : Nat → Read (List SetItem)
  | 0 => malformed
  | fuel + 1 => do
    let a ← takeSetMember
    if ← accept ['-'] then
      if ← accept [']'] then return [a, .char '-']
      else
        match a, ← takeSetMember with
        | .char lo, .char hi =>
          if hi < lo then malformed
          else return .range lo.toNat hi.toNat :: (← takeSetItems fuel)
        | _, _ => malformed
    else return a :: (← takeSetItems fuel)

end

/-- A count of repetitions in braces, after the opening brace; none if this is no count and the
brace stands for itself. -/
def takeCount : Read (Option (Nat × Option Nat)) := do
  let before ← get
  let lo ← takeWhileUpTo before.rest.length Char.isDigit
  let comma ← accept [',']
  let hi ← if comma then takeWhileUpTo before.rest.length Char.isDigit else pure lo
  if (lo.isEmpty && !comma) || !(← accept ['}']) then
    set before
    return none
  else
    let limit := 4294967295
    let min := Number.digitsValue lo
    let max := Number.digitsValue hi
    if min ≥ limit || max ≥ limit then fun _ => .error .hugeCount
    else if !hi.isEmpty && max < min then malformed
    else return some (min, if hi.isEmpty then none else some max)

/-- Whether a node is a condition on the place. -/
def isPlain : Node → Bool
  | .start _ | .finish _ | .textEnd | .boundary _ _ => true
  | _ => false

/-- Whether a node is a repetition. -/
def isRepetition : Node → Bool
  | .repetition _ _ _ _ => true
  | _ => false

/-- One option, by its letter. -/
def Options.set? (o : Options) (value : Bool) : Char → Option Options
  | 'i' => some { o with ignoreCase := value }
  | 'm' => some { o with multiline := value }
  | 's' => some { o with lineEnds := value }
  | 'x' => some { o with verbose := value }
  | 'a' => if value then some { o with ascii := true } else none
  | 'u' => if value then some { o with ascii := false } else none
  | _ => none

/-- Whether the letters of options agree: not both of the two alphabets. -/
def compatible (letters : List Char) : Bool := !(letters.contains 'a' && letters.contains 'u')

/-- The letters of options at the front. -/
def takeOptionLetters : Read (List Char) := do
  takeWhileUpTo (← get).rest.length fun c => "imsxau".toList.contains c

/-- The options after letters have been switched on or off. -/
def applyLetters (value : Bool) (o : Options) (letters : List Char) : Read Options :=
  letters.foldlM (fun o c => match o.set? value c with
    | some o => pure o
    | none => malformed) o

/-- The options of a group after its question mark, up to and with the colon. -/
def takeGroupOptions (o : Options) : Read Options := do
  let on ← takeOptionLetters
  if !compatible on then malformed
  else
    let o ← applyLetters true o on
    if ← accept ['-'] then
      let off ← takeOptionLetters
      if off.isEmpty || off.any on.contains then malformed
      else
        let o ← applyLetters false o off
        if ← accept [':'] then return o else malformed
    else if !on.isEmpty && (← accept [':']) then return o
    else malformed

/-- The number of a group that is opened, with its name if it has one. -/
def openGroup (name : Option String) : Read Nat := do
  let r ← get
  match name with
  | some n =>
    if (r.names.lookup n).isSome || !Text.isIdentifier n.toList then malformed
    else
      set { r with nextGroup := r.nextGroup + 1, names := (n, r.nextGroup) :: r.names }
      return r.nextGroup
  | none =>
    set { r with nextGroup := r.nextGroup + 1 }
    return r.nextGroup

/-- Closes a group. -/
def closeGroup (id : Nat) (body : Node) : Read Unit :=
  modify fun r => { r with widths := (id, body.width r.widths) :: r.widths }

/-- The number of the group that a condition names. -/
def conditionGroup (name : List Char) : Read Nat := do
  let r ← get
  if Text.isIdentifier name then
    match r.names.lookup (String.ofList name) with
    | some id => return id
    | none => malformed
  else match Number.readInt? name with
    | some n =>
      if n ≤ 0 then malformed
      else
        set { r with conditions := n.toNat :: r.conditions }
        return n.toNat
    | none => malformed

/-- A closing parenthesis. -/
def closeParen : Read Unit := do
  if ← accept [')'] then return () else malformed

/-- How a repetition tries its counts, by what stands behind it. -/
def takeMode : Read RepeatMode := do
  match ← peek with
  | some '?' =>
    skip 1
    return .lazy
  | some '+' =>
    skip 1
    return .possessive
  | _ => return .greedy

/-- Repeats the last of the nodes read, which are given last first. -/
def repeatLast (nodes : List Node) (lo : Nat) (hi : Option Nat) : Read (List Node) := do
  match nodes with
  | [] => malformed
  | node :: rest =>
    if isPlain node || isRepetition node then malformed
    else
      let mode ← takeMode
      return .repetition lo hi mode node :: rest

mutual

/-- Alternatives up to a closing parenthesis or the end. -/
def readAlternatives : Nat → Options → Read Node
  | 0, _ => malformed
  | fuel + 1, o => do
    let first ← readSequence fuel o []
    if ← accept ['|'] then
      match ← readAlternatives fuel o with
      | .alternatives rest => return .alternatives (first :: rest)
      | node => return .alternatives [first, node]
    else return first

/-- Nodes in a row after those read so far, which are given last first. -/
def readSequence : Nat → Options → List Node → Read Node
  | 0, _, _ => malformed
  | fuel + 1, o, nodes => do
    match ← peek with
    | none => return .sequence nodes.reverse
    | some c =>
      if c = '|' || c = ')' then return .sequence nodes.reverse
      else
        skip 1
        if o.verbose && Text.isAsciiBlank c then readSequence fuel o nodes
        else if o.verbose && c = '#' then
          let comment ← takeWhileUpTo (← get).rest.length (· != '\n')
          let _ := comment
          readSequence fuel o nodes
        else if c = '\\' then
          let node ← takeEscape o
          readSequence fuel o (node :: nodes)
        else if c = '.' then readSequence fuel o (.any o.lineEnds :: nodes)
        else if c = '^' then readSequence fuel o (.start o.multiline :: nodes)
        else if c = '$' then readSequence fuel o (.finish o.multiline :: nodes)
        else if c = '[' then
          let negated ← accept ['^']
          let items ← takeSetFrom (2 * (← get).rest.length + 1)
          readSequence fuel o (.set negated items o.ignoreCase o.ascii :: nodes)
        else if c = '*' then
          let nodes ← repeatLast nodes 0 none
          readSequence fuel o nodes
        else if c = '+' then
          let nodes ← repeatLast nodes 1 none
          readSequence fuel o nodes
        else if c = '?' then
          let nodes ← repeatLast nodes 0 (some 1)
          readSequence fuel o nodes
        else if c = '\x7b' then
          match ← takeCount with
          | some (lo, hi) =>
            let nodes ← repeatLast nodes lo hi
            readSequence fuel o nodes
          | none => readSequence fuel o (literal o c :: nodes)
        else if c = '(' then
          match ← readGroup fuel o with
          | some node => readSequence fuel o (node :: nodes)
          | none => readSequence fuel o nodes
        else readSequence fuel o (literal o c :: nodes)

/-- A group after its opening parenthesis; none for a comment. -/
def readGroup : Nat → Options → Read (Option Node)
  | 0, _ => malformed
  | fuel + 1, o => do
    if ← accept ['?', 'P', '<'] then
      let name ← takeUntil '>'
      let id ← openGroup (some (String.ofList name))
      let body ← readAlternatives fuel o
      closeParen
      closeGroup id body
      return some (.group id body)
    else if ← accept ['?', 'P', '='] then
      let name ← takeUntil ')'
      match (← get).names.lookup (String.ofList name) with
      | some id => return some (← groupReference o id)
      | none => malformed
    else if ← accept ['?', ':'] then
      let body ← readAlternatives fuel o
      closeParen
      return some (.sequence [body])
    else if ← accept ['?', '#'] then
      let text := (← get).rest.takeWhile (· != ')')
      skip text.length
      closeParen
      return none
    else if ← accept ['?', '>'] then
      let body ← readAlternatives fuel o
      closeParen
      return some (.atomic body)
    else if ← accept ['?', '='] then
      let body ← readAlternatives fuel o
      closeParen
      return some (.ahead false body)
    else if ← accept ['?', '!'] then
      let body ← readAlternatives fuel o
      closeParen
      return some (.ahead true body)
    else if ← accept ['?', '<', '='] then return some (← readBehind fuel o false)
    else if ← accept ['?', '<', '!'] then return some (← readBehind fuel o true)
    else if ← accept ['?', '('] then
      let name ← takeUntil ')'
      let id ← conditionGroup name
      if (← get).behindFrom.isSome then checkReference id
      let yes ← readSequence fuel o []
      let no ← if ← accept ['|'] then readSequence fuel o [] else pure (.sequence [])
      closeParen
      return some (.ifGroup id yes no)
    else if ← accept ['?'] then
      let inner ← takeGroupOptions o
      let body ← readAlternatives fuel inner
      closeParen
      return some (.sequence [body])
    else
      let id ← openGroup none
      let body ← readAlternatives fuel o
      closeParen
      closeGroup id body
      return some (.group id body)

/-- What looks back, after its opening. -/
def readBehind : Nat → Options → Bool → Read Node
  | 0, _, _ => malformed
  | fuel + 1, o, negated => do
    let outside := (← get).behindFrom
    modify fun r => { r with behindFrom := some (outside.getD r.nextGroup) }
    let body ← readAlternatives fuel o
    modify fun r => { r with behindFrom := outside }
    closeParen
    match body.width (← get).widths with
    | (lo, some hi) => if lo = hi then return .behind negated lo body else malformed
    | (_, none) => malformed

end

/-- The options for the whole pattern, which stand at its start between comments, and all their
letters. -/
def readOptions : Nat → Options → List Char → Read (Options × List Char)
  | 0, o, seen => pure (o, seen)
  | fuel + 1, o, seen => do
    let before ← get
    match before.rest with
    | '(' :: '?' :: '#' :: rest =>
      let text := rest.takeWhile (· != ')')
      set { before with rest := rest.drop text.length }
      closeParen
      readOptions fuel o seen
    | '(' :: '?' :: rest =>
      set { before with rest := rest }
      let letters ← takeOptionLetters
      let closed ← accept [')']
      if letters.isEmpty || !closed then
        set before
        return (o, seen)
      else if compatible letters then
        readOptions fuel (← applyLetters true o letters) (seen ++ letters)
      else malformed
    | c :: rest =>
      if o.verbose && Text.isAsciiBlank c then
        set { before with rest := rest }
        readOptions fuel o seen
      else if o.verbose && c = '#' then
        set { before with rest := rest.dropWhile (· != '\n') }
        readOptions fuel o seen
      else return (o, seen)
    | [] => return (o, seen)

/-- A whole pattern. -/
def readPattern (length : Nat) : Read Node := do
  let (o, letters) ← readOptions (length + 1) {} []
  let node ← readAlternatives (2 * length + 4) o
  let r ← get
  if !r.rest.isEmpty then malformed
  else if r.conditions.any fun id => id ≥ r.nextGroup then malformed
  else if compatible letters then return node
  else fun _ => .error .twoAlphabets

/-- The expression that a pattern denotes. -/
def parse (pattern : String) : Except ParseFailure Node :=
  let cs := pattern.toList
  (readPattern cs.length ⟨cs, 1, [], [], none, []⟩).map Prod.fst

end WizardLogic.Regex
