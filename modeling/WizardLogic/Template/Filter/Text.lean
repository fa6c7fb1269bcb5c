import WizardLogic.Template.Link
import WizardLogic.Template.Operator
import WizardLogic.Template.Test
import WizardLogic.Text.Wrap

/-!
# Filters of texts

Joining, replacing, indenting, truncating and wrapping texts, and texts fit for addresses and tags.
While printed values are escaped, several of them escape what they put together.
-/

namespace WizardLogic.Template

open Render

/-- A value as text: texts stay what they are. -/
def softText (v : Val) : Render Val := do
  match v with
  | .str _ | .markup _ => return v
  | v => return .str (← textOf v)

/-- The value of a text under a change of its characters. -/
def onText (v : Val) (f : List Char → List Char) : Render Val := do
  match ← softText v with
  | .markup s => return .markup (String.ofList (f s.toList))
  | w => return .ofChars (f (w.text?.getD "").toList)

/-- A text as markup while printed values are escaped. -/
def asPrinted (cs : List Char) : Render Val := do return sameKind (← escapes) cs

/-- Whether a character starts a new word in a title. -/
def startsWord (c : Char) : Bool :=
  c = '-' || Text.isBlank c || c = '(' || c = '\x7b' || c = '[' || c = '<'

/-- Every run of characters between separators with its first character in upper case and the rest
in lower case. -/
def titleWords (cs : List Char) : List Char :=
  let rec go (inWord : Bool) (word : List Char) : List Char → List Char
    | [] => Text.lower word.reverse
    | c :: cs =>
      if startsWord c then Text.lower word.reverse ++ c :: go false [] cs
      else if inWord then go true (c :: word) cs
      else Text.upperChar c ++ go true [] cs
  go false [] cs

/-- The number of maximal runs of word characters. -/
def wordCount (cs : List Char) : Nat :=
  let step (acc : Nat × Bool) (c : Char) : Nat × Bool :=
    if Text.isWordChar c then (if acc.2 then acc.1 else acc.1 + 1, true) else (acc.1, false)
  (cs.foldl step (0, false)).1

/-- The texts of values joined by a text. Markup among them, or between them, makes the whole markup
while printed values are escaped. -/
def joinWith (glue : Val) (xs : List Val) : Render Val := do
  let plain : Render Val := do
    let parts ← xs.mapM textOf
    return .str ((← textOf glue).intercalate parts)
  if !(← escapes) then plain
  else match glue with
    | .markup s => joinMarkup s (← xs.mapM softText)
    | .undefined => plain
    | glue =>
      if xs.any Val.isMarkup then joinMarkup (← escapedText glue) xs else plain

/-- A text with one part replaced by another. While printed values are escaped, markup that is put
into a plain text makes it markup. -/
def replaceFilter (v old new : Val) (limit : Option Nat) : Render Val := do
  if !(← escapes) then
    let s ← textOf v
    let a ← textOf old
    let b ← textOf new
    return .ofChars (Text.replace a.toList b.toList limit s.toList)
  else
    let s ← if old.isMarkup || (new.isMarkup && !v.isMarkup) then escapeVal v else softText v
    let a ← textOf old
    match s with
    | .markup s =>
      let b ← escapedText new
      return .markup (String.ofList (Text.replace a.toList b.toList limit s.toList))
    | s =>
      let b ← textOf new
      return .ofChars (Text.replace a.toList b.toList limit (s.text?.getD "").toList)

/-- Values joined by a text or by markup; only texts can be joined by a text. -/
def joinTextVals (glue : Val) (xs : List Val) : Render Val := do
  match glue with
  | .markup s => joinMarkup s xs
  | .str s => return .ofChars (s.toList.intercalate (← xs.mapM fun x => ofOutcome (charsOf x)))
  | _ => invalid

/-- Lines indented by a text, the first and blank ones only on demand. -/
def indentText (v width : Val) (first blank : Bool) : Render Val := do
  let step ← match width with
    | .str _ | .markup _ => pure width
    | .undefined => pure .undefined
    | w => repeatSequence (.str " ") w
  let isMarkup := match v with
    | .markup _ => true
    | _ => false
  let same (s : String) : Val := if isMarkup then .markup s else .str s
  let step := if isMarkup then .markup (step.text?.getD "") else step
  match v with
  | .undefined => invalid
  | .cell .list _ => fail (.fault .noMember)
  | v =>
    match v.text? with
    | none => invalid
    | some s =>
      let lines := (Text.lines false (s ++ "\n").toList).map fun l => same (String.ofList l)
      let newline := same "\n"
      let body ←
        if blank then joinTextVals (← addVals newline step) lines
        else
          match lines with
          | [] => pure (same "")
          | [line] => pure line
          | line :: rest => do
            let rest ← rest.mapM fun l => do
              if ← isTrue l then addVals step l else return l
            addVals line (← addVals newline (← joinTextVals newline rest))
      if first then addVals step body else return body

/-- A value cut to a length, a text at a blank if possible, with an ending. What is no longer than
the length and a leeway stays as it is. -/
def truncateFilter (p : Powers) (v length killWords ending leeway : Val) : Render Val := do
  let endLength : Val := .int (← lengthOf p ending)
  if !(← compareOrder .ge length endLength) then fail (.fault .assertion)
  else if !(← compareOrder .ge leeway (.int 0)) then fail (.fault .assertion)
  else
    let limit ← addVals length leeway
    if ← compareOrder .le (.int (← lengthOf p v)) limit then return v
    else
      let kept ← getSlice v .none (← subVals p length endLength) .none
      if ← isTrue killWords then addVals kept ending
      else match kept with
        | .str s | .markup s =>
          let front := (Text.splitLast [' '] (some 1) s.toList).headD []
          match kept with
          | .markup _ => addVals (.markup (String.ofList front)) ending
          | _ => addVals (.ofChars front) ending
        | .bytes _ => invalid
        | _ => fail (.fault .noMember)

/-- The lines of a text filled up to a width, joined by a text. -/
def wordWrap (v width : Val) (breakLong hyphens : Bool) (glue : Val) : Render Val := do
  let glue ← match glue with
    | .none => pure (.str "\n")
    | .str _ | .markup _ => pure glue
    | .undefined => invalid
    | _ => fail (.fault .noMember)
  match v.text? with
  | none => if v.isUndefined then invalid else fail (.fault .noMember)
  | some s =>
    let lines := Text.lines false s.toList
    if lines.isEmpty then joinTextVals glue []
    else
      let (room, exact) ← match width.number? with
        | some (.int n) => if n ≤ 0 then invalid else pure (n.toNat, true)
        | some (.float d) =>
          if d.compareInt? 0 != some .gt then invalid
          else match d.floor? with
            | some n => pure (max n.toNat 1, n.toNat = 0)
            | none => pure (s.length + 1, true)
        | none => invalid
      let tooLong (l : List Char) : Bool :=
        (Text.pieces hyphens l).any fun piece => room < piece.length
      if !exact && breakLong && lines.any tooLong then invalid
      else
        let wrapped ← lines.mapM fun l =>
          joinTextVals glue ((Text.wrap ⟨room, breakLong, hyphens⟩ l).map .ofChars)
        joinTextVals glue wrapped

/-- A byte of a text in a percent escape. -/
def percentByte (b : UInt8) : List Char :=
  let hex (n : Nat) : Char := Char.ofNat (if n < 10 then 48 + n else 55 + n)
  ['%', hex (b.toNat / 16), hex (b.toNat % 16)]

/-- The bytes of a value's text fit for an address; a blank in a query becomes a plus. -/
def percentEncode (inQuery : Bool) (v : Val) : Render (List Char) := do
  let bytes ← match v with
    | .bytes bs => pure bs
    | v => do pure (← textOf v).toUTF8.toList
  return bytes.flatMap fun b =>
    let c := Char.ofNat b.toNat
    if b < 128 && (c.isAlphanum || c = '_' || c = '.' || c = '-' || c = '~') then [c]
    else if c = '/' && !inQuery then ['/']
    else if c = ' ' && inQuery then ['+']
    else percentByte b

/-- A value fit for an address: a text, or the pairs of a query. -/
def urlEncode (p : Powers) (v : Val) : Render Val := do
  let pairs : Option (Render (List Val)) :=
    match v with
    | .str _ | .markup _ => none
    | .cell .dict id => some do return Val.viewItems .items (← dictEntries id)
    | v => if isIterable v then some (elements p v) else none
  match pairs with
  | none => return .ofChars (← percentEncode false v)
  | some pairs =>
    let parts ← (← pairs).mapM fun pair => do
      match ← elements p pair with
      | [k, w] => return (← percentEncode true k) ++ '=' :: (← percentEncode true w)
      | _ => invalid
    return .ofChars (['&'].intercalate parts)

/-- The attributes of a tag for the entries of an object; entries without a value are left out. -/
def tagAttributes (v : Val) (autospace : Bool) : Render Val := do
  match v with
  | .undefined => invalid
  | .cell .dict id =>
    let parts ← (← dictEntries id).filterMapM fun (k, w) => do
      match w with
      | .none | .undefined => return none
      | w =>
        let bad (c : Char) : Bool := Text.isAsciiBlank c || c = '/' || c = '>' || c = '='
        if (← ofOutcome (charsOf k)).any bad then invalid
        else
          let name := (← escapedText k).toList
          return some (name ++ '=' :: '"' :: ((← escapedText w).toList ++ ['"']))
    let out := [' '].intercalate parts
    asPrinted (if autospace && !out.isEmpty then ' ' :: out else out)
  | _ => fail (.fault .noMember)

/-- The words that say what a link is to the page it leads to. -/
def relationWords (v : Val) : Render (List (List Char)) := do
  match v.text? with
  | some s => return Text.words s.toList
  | none => if ← isTrue v then fail (.fault .noMember) else return []

/-- Markup of a value's text with its addresses turned into links. -/
def urlize (p : Powers) (v limit nofollow target relations schemes : Val) : Render Val := do
  let words ← relationWords relations
  let rel := linkRelations words (← isTrue nofollow)
  let given ← match schemes with
    | .none => pure []
    | w => do (← elements p w).mapM fun x => ofOutcome (charsOf x)
  if !given.all (looksLike schemeForm) then invalid
  else
    let kept := match schemes with
      | .cell .iterator _ => []
      | _ => given
    let target ← if ← isTrue target then do
        pure (" target=\"".toList ++ (← escapedText target).toList ++ ['"'])
      else pure []
    let s := (← escapedText v).toList
    let linking : Linking := ⟨limit, linkAttribute "rel" rel ++ target, kept⟩
    asPrinted (← ofOutcome (linkMarkup linking (s.length + 1) s))

end WizardLogic.Template
