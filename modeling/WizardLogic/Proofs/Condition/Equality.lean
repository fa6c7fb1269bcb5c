import Mathlib
import WizardLogic.Proofs.Condition.Agreement
import WizardLogic.Proofs.Descriptor.Alike
import WizardLogic.Proofs.Value.Sameness

/-!
# Conditions that compare for equality

A condition that compares for equality finds its two values first, the left one and then the right
one (`Engine.compared`), and then holds if these compare strictly equal. When that is so is said by
`Engine.equals_iff`: if the two values are the same once the booleans inside lists and objects are
written as numbers. So the condition holds of values that are the same, and if it holds of others,
then somewhere inside them a boolean stands against a number.

That does happen. A list with the boolean true equals a list with the number one, although the
boolean and the number by themselves do not (`Engine.not_same_trueAndOne`).
-/

namespace WizardLogic

namespace Engine

variable {en : Engine}

/-- The left value of a comparison for equality: what its context comes to, or else null. -/
def comparedLeft (en : Engine) (s : State) (operand : Value) : Effect Value :=
  if (operand.field "context").isNull then pure .null
  else en.resolveValue s (operand.field "context")

/-- The right value of a comparison: what its value comes to as a context, where it looks like one,
and else the value itself. -/
def comparedRight (en : Engine) (s : State) (operand : Value) : Effect Value :=
  if ((operand.field "value").get? (.str "type")).isSome then
    en.resolveValue s (operand.field "value")
  else pure (operand.field "value")

/-- The two values that a comparison for equality is about. -/
def compared (en : Engine) (s : State) (operand : Value) : Effect (Value × Value) := do
  let left ← en.comparedLeft s operand
  let right ← en.comparedRight s operand
  return (left, right)

/-- A condition is decided by the rule of the predicate that it has. -/
theorem evaluate_of_rule {c : Value} {key : String} {rule : ConditionRule}
    (hrule : en.conditionRule? c = some (key, rule)) (s : State) :
    en.evaluate s c = en.evaluateByRule s (c.field key) rule := by
  obtain ⟨es, rfl⟩ := exists_eq_obj_of_field _ (field_ne_null_of_conditionRule? hrule)
  rw [evaluate_obj, hrule]

theorem leftSide_operandServices {operand : Value} (h : operand.isObject = true) (s : State) :
    (en.operandServices operand).leftSide s operand .null = en.comparedLeft s operand := by
  unfold Services.leftSide comparedLeft requireObject
  rw [resolveValue_operandServices, Value.part_field, Value.part_nil, if_pos h, pure_bind]
  cases (operand.field "context").isNull <;> rfl

theorem rightSide_operandServices (operand : Value) (s : State) :
    (en.operandServices operand).rightSide s operand = en.comparedRight s operand := by
  unfold Services.rightSide comparedRight
  rw [resolveValue_operandServices, Value.part_field, Value.part_nil]

/-- **A comparison for equality holds if its two values compare strictly equal.** -/
theorem evaluate_equals {c : Value} {key : String}
    (hrule : en.conditionRule? c = some (key, .equals)) (hobject : (c.field key).isObject = true)
    (s : State) :
    en.evaluate s c = (fun sides => sides.1.strictEq sides.2) <$> en.compared s (c.field key) := by
  rw [evaluate_of_rule hrule, evaluateByRule]
  unfold Services.evaluateEquals compared
  rw [leftSide_operandServices hobject, rightSide_operandServices, map_bind]
  refine bind_congr fun left => ?_
  rw [map_bind]
  refine bind_congr fun right => ?_
  rw [map_pure]

/-- **When values compare strictly equal.** They do if they are the same once the booleans inside
lists and objects are written as numbers; and they are the same if they compare strictly equal and
no boolean of one stands where the other has a number. A condition that compares them for equality
holds exactly if they compare strictly equal. -/
theorem equals_iff {a b : Value} (ha : a.HasTextKeys) (hb : b.HasTextKeys) :
    (a.strictEq b = true ↔ a.countedInside.Same b.countedInside) ∧
      (a.Same b ↔ a.strictEq b = true ∧ ¬ a.Mixed b) ∧
      ∀ (en : Engine) (s : State) (c : Value) (key : String) (x y : Exchange),
        en.conditionRule? c = some (key, .equals) → (c.field key).isObject = true →
          (en.compared s (c.field key)).runFrom x = (.ok (a, b), y) →
            (en.evaluate s c).runFrom x = (.ok (a.strictEq b), y) := by
  refine ⟨Value.strictEq_iff ha hb, Value.same_iff ha hb, ?_⟩
  intro en s c key x y hrule hobject hcompared
  rw [evaluate_equals hrule hobject, Effect.runFrom_map, hcompared]
  rfl

end Engine

/-! ### Equal values that are spelled differently, and values that are not the same -/

/-- The condition that what a context comes to equals a value. -/
def equalTo (context value : Value) : Value :=
  .obj [(.str "equals", .obj [(.str "context", context), (.str "value", value)])]

/-- A list with an integer and an object. -/
def spelledOneWay : Value := .list [.int 1, .obj [(.str "on", .bool true), (.str "by", .null)]]

/-- The same list with a floating-point number, and with the keys turned round. -/
def spelledOtherWay : Value :=
  .list [.float (.finite false 4503599627370496 1022 (by decide)),
    .obj [(.str "by", .null), (.str "on", .bool true)]]

/-- Spelling and order make no difference. -/
theorem Engine.equals_iff_spelledOtherWay :
    spelledOneWay.strictEq spelledOtherWay = true ∧
      spelledOneWay.countedInside.Same spelledOtherWay.countedInside ∧
      (Engine.bare.evaluate {} (equalTo (constant spelledOneWay) spelledOtherWay)).runFrom
        World.ofCaller.exchange = (.ok true, World.ofCaller.exchange) := by
  -- Two different keys, in either order, and nothing but scalars under them.
  have hobject : ∀ s t : String, s ≠ t → ∀ k l : Key,
      (Value.obj [(.str s, .ofKey k), (.str t, .ofKey l)]).HasTextKeys := by
    intro s t hne k l
    refine .obj ?_ ?_ ?_
    · exact List.forall_mem_cons.mpr ⟨⟨s, rfl⟩, List.forall_mem_singleton.mpr ⟨t, rfl⟩⟩
    · simp [Entries.keys, hne]
    · exact List.forall_mem_cons.mpr ⟨.scalar k, List.forall_mem_singleton.mpr (.scalar l)⟩
  have hone : spelledOneWay.HasTextKeys := by
    refine .list (List.forall_mem_cons.mpr ⟨.scalar (.int 1), List.forall_mem_singleton.mpr ?_⟩)
    exact hobject "on" "by" (by decide) (.bool true) .null
  have hother : spelledOtherWay.HasTextKeys := by
    refine .list (List.forall_mem_cons.mpr ⟨.scalar (.float _), List.forall_mem_singleton.mpr ?_⟩)
    exact hobject "by" "on" (by decide) .null (.bool true)
  have hstrict : spelledOneWay.strictEq spelledOtherWay = true := by decide +kernel
  obtain ⟨hsame, -, hequals⟩ := Engine.equals_iff hone hother
  refine ⟨hstrict, hsame.mp hstrict, ?_⟩
  rw [← hstrict]
  exact hequals .bare {} _ "equals" _ _ rfl rfl (by cbv)

/-- The boolean true in a list equals the number one in a list. -/
theorem Engine.not_same_trueAndOne :
    (Value.list [.bool true]).strictEq (.list [.int 1]) = true ∧
      ¬ (Value.list [.bool true]).Same (.list [.int 1]) ∧
      (Engine.bare.evaluate {} (equalTo (constant (.list [.bool true])) (.list [.int 1]))).runFrom
        World.ofCaller.exchange = (.ok true, World.ofCaller.exchange) := by
  refine ⟨rfl, ?_, by cbv⟩
  intro h
  exact h.not_mixed (.list (i := 0) rfl rfl (.left (v := .int 1) rfl))

end WizardLogic
