import WizardLogic.Template.Access
import WizardLogic.Template.Markup
import WizardLogic.Template.Spec

/-!
# Replacement fields

In a pattern braces hold replacement fields: the name of an argument, with members and items of it,
a conversion behind an exclamation mark, and a format specification behind a colon, which may have
fields itself. A doubled brace is a brace.

Where the pattern is markup what the fields yield is escaped.
-/

namespace WizardLogic.Template

open Render

/-! ### Parts of a pattern -/

/-- A replacement field. -/
structure Field where
  name : List Char
  conversion : Option Char
  spec : List Char

/-- The characters of a field's name, and what stopped them: a bracket hides other ends until it is
closed. None if a brace opens in it or nothing ends it. -/
def takeFieldName (bracketed : Bool) : List Char → Option (List Char × Char × List Char)
  | [] => none
  | c :: cs =>
    let continue' (bracketed : Bool) : Option (List Char × Char × List Char) :=
      (takeFieldName bracketed cs).map fun (name, e, rest) => (c :: name, e, rest)
    if bracketed then continue' (c != ']')
    else if c = '\x7b' then none
    else if c = '[' then continue' true
    else if c = '\x7d' || c = ':' || c = '!' then some ([], c, cs)
    else continue' false

/-- The characters of a field's specification up to the brace that closes the field; braces in it
nest. -/
def takeFieldSpec : Nat → List Char → Option (List Char × List Char)
  | _, [] => none
  | 0, '}' :: cs => some ([], cs)
  | depth + 1, '}' :: cs => (takeFieldSpec depth cs).map fun (f, rest) => ('}' :: f, rest)
  | depth, '{' :: cs => (takeFieldSpec (depth + 1) cs).map fun (f, rest) => ('{' :: f, rest)
  | depth, c :: cs => (takeFieldSpec depth cs).map fun (f, rest) => (c :: f, rest)

/-- The field behind an opening brace, and what follows it. -/
def takeField? (cs : List Char) : Option (Field × List Char) := do
  let (name, e, rest) ← takeFieldName false cs
  let withSpec (conversion : Option Char) (cs : List Char) : Option (Field × List Char) := do
    let (spec, rest) ← takeFieldSpec 0 cs
    return (⟨name, conversion, spec⟩, rest)
  if e = '!' then
    match rest with
    | c :: '}' :: rest => return (⟨name, some c, []⟩, rest)
    | c :: ':' :: rest => withSpec (some c) rest
    | _ => none
  else if e = ':' then withSpec none rest
  else return (⟨name, none, []⟩, rest)

/-! ### What a field names -/

/-- The number that digits denote, if there are digits only; too great numbers are none. -/
def fieldNumber? (cs : List Char) : Option Nat :=
  if cs.isEmpty || !cs.all Text.isDecimal then none
  else some (cs.foldl (fun n c => n * 10 + (Text.decimalValue? c).getD 0) 0)

/-- Whether a name is so great a number that it has no meaning. -/
def isTooGreat (cs : List Char) : Bool := (fieldNumber? cs).any fun n => maxWidth < n

/-- The characters before a member or item, and the rest. -/
def splitField (cs : List Char) : List Char × List Char :=
  let plain (c : Char) : Bool := c != '.' && c != '['
  (cs.takeWhile plain, cs.dropWhile plain)

/-- The value that the members and items of a replacement field lead to. `fuel` bounds their
number. -/
def followField (p : Powers) : Nat → Val → List Char → Render Val
  | 0, v, _ => pure v
  | _ + 1, v, [] => pure v
  | fuel + 1, v, '.' :: cs => do
    let (name, rest) := splitField cs
    if name.isEmpty then invalid
    else followField p fuel (← getMember p v (String.ofList name)) rest
  | fuel + 1, v, '[' :: cs => do
    let key := cs.takeWhile (· != ']')
    match cs.drop key.length with
    | ']' :: rest =>
      if key.isEmpty || isTooGreat key then invalid
      else
        let k : Val := match fieldNumber? key with
          | some n => .int n
          | none => .ofChars key
        followField p fuel (← getItem p v k) rest
    | _ => invalid
  | _ + 1, _, _ => invalid

/-- What a pattern takes its values from. -/
structure FieldArgs where
  /-- Whether the pattern is markup. -/
  escapes : Bool
  positional : List Val
  /-- Where names are looked up: the named arguments, or a value that is asked for its items. -/
  named : List (String × Val) ⊕ Val

/-- How the fields without names are counted. -/
inductive Numbering
  | automatic (next : Nat)
  | manual
deriving Inhabited

/-- The item of a collection under a text, where a pattern looks up names in the collection. -/
def mappedItem (v : Val) (name : String) : Render Val := do
  match v with
  | .undefined => return .undefined
  | .cell .dict id =>
    match Val.lookup? (.str name) (← dictEntries id) with
    | some w => return w
    | none => fail (.fault .noKey)
  | _ => invalid

/-- The positional argument at a place. -/
def FieldArgs.at (a : FieldArgs) (i : Nat) : Render Val :=
  match a.named, a.positional[i]? with
  | _, some v => pure v
  | _, none => fail (.fault .noPosition)

/-- The argument that the first part of a field names. -/
def FieldArgs.get (a : FieldArgs) (name : List Char) : Render Val :=
  if isTooGreat name then invalid
  else match fieldNumber? name, a.named with
    | some i, _ => a.at i
    | none, .inl es =>
      match es.lookup (String.ofList name) with
      | some v => pure v
      | none => fail (.fault .noKey)
    | none, .inr v => mappedItem v (String.ofList name)

/-- The name that a field goes by, and how counting goes on. -/
def fieldName (n : Numbering) (name : List Char) : Except Failure (List Char × Numbering) :=
  match n with
  | .automatic i =>
    if name.isEmpty then .ok (Nat.toDigits 10 i, .automatic (i + 1))
    else if !name.all Text.isDigitLike then .ok (name, n)
    else if i = 0 then .ok (name, .manual)
    else invalid
  | .manual => if name.isEmpty then invalid else .ok (name, n)

/-! ### Filling in -/

/-- A value after a conversion. -/
def converted (conversion : Option Char) (v : Val) : Render Val := do
  match conversion with
  | none => return v
  | some 's' => return .str (← textOf v)
  | some 'r' => return .ofChars (← literalOf v)
  | some 'a' => return .ofChars (Text.escapeBeyondAscii (← literalOf v))
  | some _ => invalid

/-- What a field yields. -/
def fieldText (escapes : Bool) (spec : List Char) (v : Val) : Render (List Char) := do
  if !escapes then formatWith spec v
  else if v.isMarkup then
    if spec.isEmpty then return (← textOf v).toList else invalid
  else return escapeChars (← formatWith spec v)

/-- Fills in a pattern with replacement fields. `fuel` bounds the number of parts, `depth` the
nesting of fields in format specifications. -/
def fillFields (p : Powers) (a : FieldArgs) :
    Nat → Nat → Numbering → List Char → Render (List Char × Numbering)
  | 0, _, n, _ => pure ([], n)
  | _ + 1, _, n, [] => pure ([], n)
  | fuel + 1, depth, n, '{' :: '{' :: cs => do
    let (more, n) ← fillFields p a fuel depth n cs
    return ('{' :: more, n)
  | fuel + 1, depth, n, '}' :: '}' :: cs => do
    let (more, n) ← fillFields p a fuel depth n cs
    return ('}' :: more, n)
  | _ + 1, _, _, '}' :: _ => invalid
  | fuel + 1, depth, n, '{' :: cs => do
    match depth, takeField? cs with
    | depth' + 1, some (field, rest) =>
      let (name, n) ← ofOutcome (fieldName n field.name)
      let (first, path) := splitField name
      let v ← followField p (path.length + 1) (← a.get first) path
      let v ← converted field.conversion v
      let (spec, n) ← fillFields p a fuel depth' n field.spec
      let here ← fieldText a.escapes spec v
      let (more, n) ← fillFields p a fuel depth n rest
      return (here ++ more, n)
    | _, _ => invalid
  | fuel + 1, depth, n, c :: cs => do
    let (more, n) ← fillFields p a fuel depth n cs
    return (c :: more, n)

/-- How deeply fields may stand inside the specifications of fields. -/
def maxFieldDepth : Nat := 2

/-- **A pattern with its replacement fields filled in;** markup if the pattern is. -/
def formatFields (p : Powers) (pattern : Val) (positional : List Val)
    (named : List (String × Val) ⊕ Val) : Render Val := do
  let fill (escapes : Bool) (s : String) : Render String := do
    let cs := s.toList
    let (out, _) ←
      fillFields p ⟨escapes, positional, named⟩ (cs.length + 1) maxFieldDepth (.automatic 0) cs
    return String.ofList out
  match pattern with
  | .markup s => return .markup (← fill true s)
  | .str s => return .str (← fill false s)
  | _ => invalid

end WizardLogic.Template
