import WizardLogic.Value
import WizardLogic.Fault

/-!
# The order of siblings

Sibling actions, and sibling blocks, run in ascending order of their `order` field, whatever their
place in the document; siblings of equal order keep their places. An order is an integer or a
floating-point number and compared by exact value; anything else counts as zero.
-/

namespace WizardLogic

/-- The order of a sibling. -/
inductive OrderKey
  | int (n : Int)
  | float (d : Double)
deriving DecidableEq, Inhabited

namespace OrderKey

/-- How two orders compare; none if one is not a number. -/
def compare? : OrderKey → OrderKey → Option Ordering
  | int a, int b => some (compare a b)
  | float a, float b => a.compare? b
  | float a, int b => a.compareInt? b
  | int a, float b => (b.compareInt? a).map Ordering.swap

/-- Whether the first sibling may stay before the second. -/
def le (a b : OrderKey) : Bool := b.compare? a != some .lt

/-- The order that the value of an order field stands for. -/
def ofValue : Value → OrderKey
  | .int n => int n
  | .float d => float d
  | _ => int 0

end OrderKey

namespace Value

/-- The order of a sibling that is an object. -/
def orderKey (v : Value) : OrderKey := OrderKey.ofValue (v.field "order")

/-- Whether a value is an object. -/
def isObject : Value → Bool
  | obj _ => true
  | _ => false

/-- The elements that going through a value yields: the items of a list, the keys of an object,
the characters of a text. Other values have none and cannot be gone through. -/
def elements? : Value → Option (List Value)
  | list items => some items
  | obj es => some (es.map fun (k, _) => ofKey k)
  | str s => some (s.toList.map fun c => str (String.ofList [c]))
  | _ => none

end Value

/-- The siblings in the order in which they run. -/
def sortSiblings (items : List Value) : List Value :=
  items.mergeSort fun a b => a.orderKey.le b.orderKey

/-- The siblings that a value lists, in the order in which they run. A value that counts as false
lists none; every sibling has to be an object. -/
def siblingsOf (v : Value) : Except Fault (List Value) :=
  if !v.isTrue then .ok []
  else match v.elements? with
    | none => .error .wrongKind
    | some items =>
      if items.all Value.isObject then .ok (sortSiblings items) else .error .noMember

end WizardLogic
