import WizardLogic.Error
import WizardLogic.Value.Parts
import WizardLogic.Text.Blank
import WizardLogic.Number.Reading

/-!
# Reading typed parts out of values

Reading a document reports everything that is wrong with it, not only the first fault. A `Reading`
is therefore a result or a list of issues, and combining two readings keeps the issues of both, in
order. Its `Applicative` instance does the combining, so a structure is read by applying its
constructor to the readings of its fields.

A few kinds are read leniently. An integer may be given as a boolean, as a whole floating-point
number or as text, and a truth value as zero, one or one of a few words. A text is never made from
anything else.
-/

namespace WizardLogic

/-- What reading a value comes to: a result, or what is wrong with the value. -/
def Reading (α : Type) := Except (List Issue) α

namespace Reading

variable {α β : Type}

/-- Both readings, with the issues of both. -/
def both (f : Reading (α → β)) (a : Unit → Reading α) : Reading β :=
  match f, a () with
  | .ok f, .ok a => .ok (f a)
  | .ok _, .error issues => .error issues
  | .error issues, .ok _ => .error issues
  | .error issues, .error more => .error (issues ++ more)

instance : Applicative Reading where
  pure a := Except.ok a
  seq := both

/-- A reading that fails with one issue at the value itself. -/
def issue (kind : IssueKind) : Reading α := Except.error [⟨[], kind⟩]

/-- The reading of a part, which stands under a field or at a position. -/
def under (place : Value) (r : Reading α) : Reading α :=
  Except.mapError (fun issues => issues.map fun i => { i with path := place :: i.path }) r

/-! ### Leaves -/

/-- A text. -/
def text : Value → Reading String
  | .str s => pure s
  | _ => issue .stringType

/-- A text that is not empty. -/
def nonEmptyText : Value → Reading String
  | .str s => if s.isEmpty then issue .stringTooShort else pure s
  | _ => issue .stringType

/-- Whether a character may stand in a name after the first. -/
def isNameChar (c : Char) : Bool := c.isAlphanum || c = '_'

/-- Whether a text is a name: a letter or an underscore, then letters, digits and underscores. -/
def isName (s : String) : Bool :=
  match s.toList with
  | [] => false
  | c :: cs => (c.isAlpha || c = '_') && cs.all isNameChar

/-- A name. -/
def name : Value → Reading String
  | .str s => if isName s then pure s else issue .stringPatternMismatch
  | _ => issue .stringType

/-- A value or null. -/
def optional (read : Value → Reading α) : Value → Reading (Option α)
  | .null => pure none
  | v => some <$> read v

/-- A word of a vocabulary. -/
def word (ofName? : String → Option α) : Value → Reading α
  | .str s => match ofName? s with
    | some a => pure a
    | none => issue .enumeration
  | _ => issue .enumeration

/-- An object whose fields have names. -/
def descriptor : Value → Reading Value
  | .obj es =>
    let bad := es.filterMap fun (k, _) => match k with
      | .str _ => none
      | k => some (⟨[Value.ofKey k, .str "[key]"], .stringType⟩ : Issue)
    if bad.isEmpty then pure (.obj es) else Except.error bad
  | _ => issue .dictType

/-- The readings of a list's items, from a position on. -/
def items (read : Value → Reading α) : Nat → List Value → Reading (List α)
  | _, [] => pure []
  | i, v :: vs => List.cons <$> under (.int i) (read v) <*> items read (i + 1) vs

/-- A list. -/
def list (read : Value → Reading α) : Value → Reading (List α)
  | .list vs => items read 0 vs
  | _ => issue .listType

/-! ### Integers and truth values -/

/-- White space around numbers: all that `Text.isBlank` knows but the information separators. -/
def isSpace (c : Char) : Bool := Text.isBlank c && !(0x1c ≤ c.toNat && c.toNat ≤ 0x1f)

/-- The characters without a point and zeros at the end. -/
def dropZeroFraction (cs : List Char) : List Char :=
  let whole := cs.takeWhile (· != '.')
  match cs.dropWhile (· != '.') with
  | _ :: '0' :: zeros => if zeros.all (· = '0') then whole else cs
  | _ => cs

/-- The integer a text is written for: digits with a sign, single underscores between digits and
zeros after a point allowed. -/
def integerOfText? (s : String) : Option Int := do
  let cs := ((s.toList.dropWhile isSpace).reverse.dropWhile isSpace).reverse
  let (neg, body) := Number.takeSign cs
  let digits ← Number.dropUnderscores? false (dropZeroFraction body)
  if digits.isEmpty || !digits.all Number.isDigit then none
  else
    let n : Int := Number.digitsValue digits
    return if neg then -n else n

/-- The integer that a floating-point number is, within 64 bits. -/
def integerOfDouble (d : Double) : Reading Int :=
  if !d.isFinite then issue .finiteNumber
  else if !d.isIntegral then issue .intFromFloat
  else match d.toInt? with
    | some n => if n.natAbs < Nat.pow 2 63 then pure n else issue .intParsingSize
    | none => issue .intFromFloat

/-- An integer. -/
def integer : Value → Reading Int
  | .int n => pure n
  | .bool b => pure (if b then 1 else 0)
  | .float d => integerOfDouble d
  | .str s =>
    if s.length > Number.maxIntDigits then issue .intParsingSize
    else match integerOfText? s with
      | some n => pure n
      | none => issue .intParsing
  | _ => issue .intType

/-- The words for true. -/
def trueWords : List String := ["1", "on", "t", "true", "y", "yes"]

/-- The words for false. -/
def falseWords : List String := ["0", "off", "f", "false", "n", "no"]

/-- The truth value that one or zero stands for. -/
def truthOfInt (n : Int) : Reading Bool :=
  if n = 1 then pure true else if n = 0 then pure false else issue .boolParsing

/-- A truth value. -/
def truth : Value → Reading Bool
  | .bool b => pure b
  | .int n => if n.natAbs < Nat.pow 2 63 then truthOfInt n else issue .boolType
  | .float d =>
    match integerOfDouble d with
    | .ok n => truthOfInt n
    | .error _ => issue .boolType
  | .str s =>
    let w := s.map Char.toLower
    if trueWords.contains w then pure true
    else if falseWords.contains w then pure false
    else issue .boolParsing
  | _ => issue .boolType

/-! ### Fields -/

/-- The first of a field's spellings that an object has. -/
def spelling? (es : Entries Value) (spellings : List String) : Option String :=
  spellings.find? fun s => es.contains (.str s)

/-- A field that may be absent. -/
def fieldOr (es : Entries Value) (spellings : List String) (absent : α)
    (read : Value → Reading α) : Reading α :=
  match spelling? es spellings with
  | some s => under (.str s) (read ((Value.obj es).field s))
  | none => pure absent

/-- A field that has to be present. -/
def field (es : Entries Value) (spellings : List String) (read : Value → Reading α) : Reading α :=
  match spelling? es spellings with
  | some s => under (.str s) (read ((Value.obj es).field s))
  | none => under (.str (spellings.headD "")) (issue .missing)

/-- The entries of an object that none of the fields uses. -/
def unknownFields (es : Entries Value) (fields : List (List String)) : Reading (Entries Value) :=
  let used := fields.filterMap (spelling? es)
  let rest := es.filter fun (k, _) => match k with
    | .str s => !used.contains s
    | _ => true
  let bad := rest.filterMap fun (k, _) => match k with
    | .str _ => none
    | k => some (⟨[Value.ofKey k], .invalidKey⟩ : Issue)
  if bad.isEmpty then pure rest else Except.error bad

end Reading

end WizardLogic
