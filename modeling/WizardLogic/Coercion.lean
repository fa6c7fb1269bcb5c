import WizardLogic.Display
import WizardLogic.Fault
import WizardLogic.Number.Reading

/-!
# Coercions of the document language

Conditions look at values of any kind through four coercions: emptiness (`Value.isEmptyValue`),
truth (`Value.isTruthy`), number (`Value.toNumber`) and text (`Value.matchText`). They differ from
the coercions of templates and queries: an empty list is empty but true, a text that is no number
is not a number, and a whole floating-point number has the text of the integer.
-/

namespace WizardLogic.Value

/-- Whether a value is null, the empty text, or a collection without elements. -/
def isEmptyValue : Value → Bool
  | null => true
  | str s => s.isEmpty
  | list items => items.isEmpty
  | obj es => es.isEmpty
  | _ => false

/-- The number a value counts as in comparisons. A blank text is zero; null, collections and texts
that are not numbers are not a number. An integer outside the range of floating-point numbers is an
overflow. -/
def toNumber : Value → Except Fault Double
  | bool b => .ok (Double.ofInt (if b then 1 else 0))
  | int n => match Double.ofInt? n with
    | some d => .ok d
    | none => .error .overflow
  | float d => .ok d
  | str s =>
    let cs := Text.strip s.toList
    if cs.isEmpty then .ok (Double.zero false) else .ok ((Number.readDouble? cs).getD .nan)
  | _ => .ok .nan

/-- Whether a value counts as true. Collections do, even empty ones; what is not a number does
not. -/
def isTruthy : Value → Bool
  | null => false
  | bool b => b
  | int n => n != 0
  | float d => !d.isNan && !d.isZero
  | str s => !s.isEmpty
  | list _ => true
  | obj _ => true

/-- The text that a pattern is matched against. Booleans are spelled in lower case and whole
floating-point numbers as integers. -/
def matchText : Value → String
  | bool b => String.ofList (Json.boolChars b)
  | float d =>
    if d.isIntegral then String.ofList (Json.intChars (d.toInt?.getD 0)) else d.text
  | v => v.text

end WizardLogic.Value
