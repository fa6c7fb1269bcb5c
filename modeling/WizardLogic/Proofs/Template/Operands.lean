import Mathlib
import WizardLogic.Proofs.Stateful
import WizardLogic.Template.Eval
import WizardLogic.Template.Output

/-!
# Numbers and undefined values as operands

The operators of templates take operands of many kinds. This file says what they do with two: numbers
(`Val.IsNumber`), and values that are undefined.

* On numbers, an operator is an outcome without effects (`calculate`, `applyBinary_of_number`), and
  what it comes to is a number again (`isNumber_of_calculate`), a complex one perhaps.
* One undefined operand is enough to make the result undefined, whichever side it is on and whatever
  the operator is (`applyBinary_undefined_left`, `applyBinary_undefined_right`), and to make a
  comparison of order false (`compareVals_undefined_left`, `compareVals_undefined_right`).
* Members and items of what is undefined are undefined (`getMember_undefined`,
  `getItem_undefined`).

The operators are not symmetric by themselves: each of them looks at its left operand first and is
defined for many kinds of it, so the two sides are two facts.
-/

namespace WizardLogic.Template

open Render Stateful

/-! ### Numbers -/

/-- The values that are numbers; truth values count as such in operators but are none. -/
inductive Val.IsNumber : Val → Prop
  | int (n : ℤ) : IsNumber (.int n)
  | float (d : Double) : IsNumber (.float d)
  | complex (z : Complex) : IsNumber (.complex z)

theorem Val.isNumber_ofNumber (n : Number) : (Val.ofNumber n).IsNumber := by
  cases n with
  | int n => exact .int n
  | float d => exact .float d

/-- **What an operator makes of two numbers.** -/
def calculate (op : BinaryOp) (a b : Val) : Except Failure Val :=
  match op with
  | .add => onNumbers Number.add (some fun z w => .ok (z.add w)) a b
  | .sub => onNumbers Number.sub (some fun z w => .ok (z.sub w)) a b
  | .mul => onNumbers Number.mul (some fun z w => .ok (z.mul w)) a b
  | .div => onNumbers Number.div (some Complex.div) a b
  | .floorDiv => onNumbers Number.floorDiv none a b
  | .mod => onNumbers Number.mod none a b
  | .pow => powVals a b

section Numbers

variable {a b v : Val}

theorem applyBinary_of_number (p : Powers) (op : BinaryOp) (ha : a.IsNumber) (hb : b.IsNumber) :
    applyBinary p op a b = ofOutcome (calculate op a b) := by
  cases ha <;> cases hb <;> cases op <;> rfl

theorem isNumber_of_onNumbers {f : Number → Number → Except Fault Number}
    {g : Option (Complex → Complex → Except Fault Complex)} (h : onNumbers f g a b = .ok v) :
    v.IsNumber := by
  unfold onNumbers at h
  split at h
  · obtain ⟨r, -, h⟩ := exists_of_bind_eq_ok h
    obtain rfl := Except.ok.inj h
    exact Val.isNumber_ofNumber r
  -- One of them is no real number, so the outcome is complex or there is none.
  · cases g with
    | none =>
      obtain ⟨z, -, h⟩ := exists_of_bind_eq_ok h
      obtain ⟨w, -, h⟩ := exists_of_bind_eq_ok h
      cases h
    | some g =>
      obtain ⟨z, -, h⟩ := exists_of_bind_eq_ok h
      obtain ⟨w, -, h⟩ := exists_of_bind_eq_ok h
      split at h
      · obtain ⟨r, -, h⟩ := exists_of_bind_eq_ok h
        obtain rfl := Except.ok.inj h
        exact .complex r
      · cases h

theorem isNumber_of_powVals (h : powVals a b = .ok v) : v.IsNumber := by
  unfold powVals at h
  split at h
  · split at h
    · obtain rfl := Except.ok.inj h
      exact Val.isNumber_ofNumber _
    -- A negative base with a broken exponent.
    · obtain ⟨x, -, h⟩ := exists_of_bind_eq_ok h
      obtain ⟨y, -, h⟩ := exists_of_bind_eq_ok h
      obtain ⟨r, -, h⟩ := exists_of_bind_eq_ok h
      obtain rfl := Except.ok.inj h
      exact .complex r
    · cases h
  · exact isNumber_of_onNumbers h

/-- **Numbers are calculated from numbers.** -/
theorem isNumber_of_calculate {op : BinaryOp} (h : calculate op a b = .ok v) : v.IsNumber := by
  cases op with
  | pow => exact isNumber_of_powVals h
  | _ =>
    rw [calculate] at h
    exact isNumber_of_onNumbers h

theorem isNumber_of_applySign {negate : Bool} (ha : a.IsNumber)
    (h : applySign negate a = .ok v) : v.IsNumber := by
  cases ha with
  | int n =>
    obtain rfl := Except.ok.inj h
    exact Val.isNumber_ofNumber _
  | float d =>
    obtain rfl := Except.ok.inj h
    exact Val.isNumber_ofNumber _
  | complex z =>
    obtain rfl := Except.ok.inj h
    exact .complex _

end Numbers

/-! ### The text of a number -/

/-- The text of a number; an integer with too many digits has none. -/
def Val.numberText? : Val → Option String
  | .int n =>
    if n.natAbs < Image.intTextLimit then some (String.ofList (Json.intChars n)) else Option.none
  | .float d => some (String.ofList d.chars)
  | .complex z => some (String.ofList z.chars)
  | _ => Option.none

/-- Integers with few enough digits have a text. -/
theorem lt_intTextLimit {n k : ℕ} (hn : n < 10 ^ k) (hk : k ≤ Number.maxIntDigits) :
    n < Image.intTextLimit := by
  unfold Image.intTextLimit
  generalize Number.maxIntDigits = limit at hk ⊢
  exact hn.trans_le (Nat.pow_le_pow_right (by decide) hk)

/-- Integers with too many digits have none. -/
theorem intTextLimit_le {k : ℕ} (hk : Number.maxIntDigits ≤ k) : Image.intTextLimit ≤ 10 ^ k := by
  unfold Image.intTextLimit
  generalize Number.maxIntDigits = limit at hk ⊢
  exact Nat.pow_le_pow_right (by decide) hk

/-- **A number is printed as its text**, and one without a text is invalid. -/
theorem textOf_number {v : Val} (hv : v.IsNumber) (s : Store) :
    textOf v s = match v.numberText? with
      | some text => .ok (text, s)
      | none => .error .invalid := by
  cases hv with
  | int n =>
    have hlook : look (.int n) s = .ok (.int n, s) := rfl
    rw [textOf, bind_of_ok hlook, Image.textOf, Image.hasText, Val.numberText?]
    · by_cases hn : n.natAbs < Image.intTextLimit
      · rw [if_pos hn, if_pos (decide_eq_true hn)]
        rfl
      · rw [if_neg hn, if_neg (by simpa using hn)]
        rfl
    all_goals simp
  | float d => rfl
  | complex z => rfl

/-! ### Undefined values -/

section Undefined

variable (p : Powers)

theorem applySign_undefined (negate : Bool) : applySign negate .undefined = .ok .undefined := rfl

/-- **An operator whose left operand is undefined** is undefined, if the other one is a number or
undefined too. -/
theorem applyBinary_undefined_left (op : BinaryOp) {b : Val}
    (hb : b = .undefined ∨ b.IsNumber) : applyBinary p op .undefined b = pure .undefined := by
  rcases hb with rfl | hb
  · cases op <;> rfl
  · cases hb <;> cases op <;> rfl

/-- **An operator whose right operand is undefined** is undefined, if the other one is a number. -/
theorem applyBinary_undefined_right (op : BinaryOp) {a : Val} (ha : a.IsNumber) :
    applyBinary p op a .undefined = pure .undefined := by
  cases ha <;> cases op <;> rfl

/-- **Members of what is undefined are undefined.** -/
theorem getMember_undefined (name : String) : getMember p .undefined name = pure .undefined := by
  have hsafe : safeAttribute name .undefined = .undefined := by
    rw [safeAttribute]
    split <;> rfl
  rw [getMember, attribute?, pure_bind]
  dsimp only
  rw [hsafe]

/-- **Items of what is undefined are undefined.** -/
theorem getItem_undefined (key : Val) : getItem p .undefined key = pure .undefined := by
  rw [getItem, item?, pure_bind]

/-! ### Comparisons -/

/-- The comparisons of order. -/
def CompareOp.IsOrder : CompareOp → Prop
  | .lt | .le | .gt | .ge => True
  | _ => False

theorem compareVals_of_isOrder {op : CompareOp} (hop : op.IsOrder) (a b : Val) :
    compareVals p op a b = compareOrder op a b := by
  cases op with
  | lt | le | gt | ge => rfl
  | _ => exact absurd hop id

/-- **A comparison of order whose left side is undefined is false.** -/
theorem compareVals_undefined_left {op : CompareOp} (hop : op.IsOrder) (b : Val) (s : Store) :
    compareVals p op .undefined b s = .ok (false, s) := by
  have hleft : look .undefined s = .ok (.undefined, s) := rfl
  have hright : look b s = .ok (imageOf s (s.cells.size + 1) [] b, s) := rfl
  rw [compareVals_of_isOrder p hop, compareOrder, bind_of_ok hleft, bind_of_ok hright,
    compareImages, Image.ordered?]
  rfl

/-- **A comparison of order whose right side is undefined is false**, if the other side is a
number. -/
theorem compareVals_undefined_right {op : CompareOp} (hop : op.IsOrder) {a : Val}
    (ha : a.IsNumber) (s : Store) : compareVals p op a .undefined s = .ok (false, s) := by
  rw [compareVals_of_isOrder p hop]
  cases ha <;> rfl

end Undefined

end WizardLogic.Template
