import WizardLogic.Fault
import WizardLogic.Json.Printer
import WizardLogic.Number.Reading
import WizardLogic.Text.Quoted

/-!
# The text of a value

A value's text (`Value.text`) is what messages and joined texts show: a string is its own text and
everything else is shown in the notation of literals (`Value.literal`), with `None`, `True` and
`False` for null and the booleans, brackets around lists, braces around objects, and strings inside
collections in quotes.

An integer may have more digits than are ever written. Documents have none, but the sum of two
integers may be one, and what it stands in cannot be written out (`Value.isWritable`): asking for its
text is a fault (`Value.written`).
-/

namespace WizardLogic

/-- The literal notation of a boolean. -/
def boolLiteral (b : Bool) : List Char := if b then "True".toList else "False".toList

namespace Key

/-- The literal notation of a key. -/
def literal : Key → List Char
  | null => "None".toList
  | bool b => boolLiteral b
  | int n => Json.intChars n
  | float d => d.chars
  | str s => Text.quoted s

end Key

namespace Value

mutual

/-- The literal notation of a value. -/
def literal : Value → List Char
  | null => "None".toList
  | bool b => boolLiteral b
  | int n => Json.intChars n
  | float d => d.chars
  | str s => Text.quoted s
  | list [] => ['[', ']']
  | list (v :: vs) => '[' :: (literal v ++ literalItems vs ++ [']'])
  | obj [] => ['{', '}']
  | obj ((k, v) :: es) =>
    '{' :: (k.literal ++ ':' :: ' ' :: (literal v ++ literalEntries es ++ ['}']))

/-- The items of a list after the first. -/
def literalItems : List Value → List Char
  | [] => []
  | v :: vs => ',' :: ' ' :: (literal v ++ literalItems vs)

/-- The entries of an object after the first. -/
def literalEntries : List (Key × Value) → List Char
  | [] => []
  | (k, v) :: es =>
    ',' :: ' ' :: (k.literal ++ ':' :: ' ' :: (literal v ++ literalEntries es))

end

/-- The text of a value. -/
def text : Value → String
  | str s => s
  | v => String.ofList v.literal

end Value

/-! ### What can be written -/

/-- Whether an integer has no more digits than are ever written. -/
def isWritableInt (n : Int) : Bool := n.natAbs < Nat.pow 10 Number.maxIntDigits

/-- Whether a key can be written out. -/
def Key.isWritable : Key → Bool
  | .int n => isWritableInt n
  | _ => true

mutual

/-- Whether a value can be written out. -/
def Value.isWritable : Value → Bool
  | .int n => isWritableInt n
  | .list items => Value.areWritable items
  | .obj es => Value.areEntriesWritable es
  | _ => true

/-- Whether all values of a list can be written out. -/
def Value.areWritable : List Value → Bool
  | [] => true
  | v :: vs => v.isWritable && Value.areWritable vs

/-- Whether all entries of an object can be written out. -/
def Value.areEntriesWritable : List (Key × Value) → Bool
  | [] => true
  | (k, v) :: es => k.isWritable && v.isWritable && Value.areEntriesWritable es

end

namespace Value

/-- The text of a value, if it can be written out. -/
def written (v : Value) : Except Fault String :=
  if v.isWritable then .ok v.text else .error .badValue

theorem written_of_isWritable {v : Value} (h : v.isWritable = true) : v.written = .ok v.text :=
  if_pos h

/-- The name of a value's kind. -/
def kindName : Value → String
  | null => "NoneType"
  | bool _ => "bool"
  | int _ => "int"
  | float _ => "float"
  | str _ => "str"
  | list _ => "list"
  | obj _ => "dict"

end Value

end WizardLogic
