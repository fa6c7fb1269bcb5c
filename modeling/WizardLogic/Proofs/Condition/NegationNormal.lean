import Mathlib
import WizardLogic.Engine.Condition
import WizardLogic.Proofs.Run.Balance

/-!
# Negations pushed to the leaves

Conditions are put together with `and`, `or` and `not`. A `Formula` is such a condition, over leaves
that may be any other conditions: they may fail, and they may call remote actions. Pushing all
negations to the leaves by the laws of De Morgan (`Formula.pushed`) gives a formula in negation
normal form, and evaluating it is the same effect (`Engine.evaluate_pushed`): the same truth value
or failure, after the same requests.

The laws hold for effects because both connectives stop at the first condition that decides, and a
negation changes what decides together with what comes out. So not even the leaves that are
evaluated differ, nor their order (`Engine.visited`). What must not be null is any of the
conditions: a null operand is no operand, and its negation does not hold.
-/

namespace WizardLogic

/-! ### Formulas -/

/-- A condition put together with connectives. -/
inductive Formula
  | literal (b : Bool)
  /-- All of some conditions. -/
  | all (parts : List Formula)
  /-- One of some conditions. -/
  | any (parts : List Formula)
  | neg (part : Formula)
  /-- Any condition at all, except that it is there. -/
  | leaf (c : Value) (present : c.isNull = false)

namespace Formula

/-- The induction on formulas, with what holds of the parts of a connective given for each part. -/
@[elab_as_elim, induction_eliminator]
theorem induction {P : Formula → Prop} (literal : ∀ b, P (literal b))
    (all : ∀ parts, (∀ p ∈ parts, P p) → P (all parts))
    (any : ∀ parts, (∀ p ∈ parts, P p) → P (any parts))
    (neg : ∀ part, P part → P (neg part)) (leaf : ∀ c h, P (leaf c h)) (c : Formula) : P c :=
  Formula.rec (motive_1 := P) (motive_2 := fun parts => ∀ p ∈ parts, P p) literal all any neg leaf
    nofun (fun _ _ hp hps => List.forall_mem_cons.mpr ⟨hp, hps⟩) c

/-- The object with one predicate. -/
def predicate (key : String) (operand : Value) : Value := .obj [(.str key, operand)]

@[simp] theorem field_predicate (key : String) (operand : Value) :
    (predicate key operand).field key = operand := by
  simp [predicate, Value.field, Value.get?, Entries.get?, Key.same]

theorem field_predicate_of_ne {key k : String} (h : k ≠ key) (operand : Value) :
    (predicate key operand).field k = .null := by
  simp [predicate, Value.field, Value.get?, Entries.get?, Key.same, h]

mutual

/-- The condition that a formula writes. -/
def toValue : Formula → Value
  | literal b => .bool b
  | all parts => predicate "and" (.list (toValues parts))
  | any parts => predicate "or" (.list (toValues parts))
  | neg part => predicate "not" (toValue part)
  | leaf c _ => c

/-- The conditions that formulas write. -/
def toValues : List Formula → List Value
  | [] => []
  | p :: ps => toValue p :: toValues ps

end

mutual

/-- A formula with its negations pushed to the leaves, or, if `negated`, its negation. -/
def pushedBy (negated : Bool) : Formula → Formula
  | literal b => literal (b != negated)
  | all parts => if negated then any (pushedAll negated parts) else all (pushedAll negated parts)
  | any parts => if negated then all (pushedAll negated parts) else any (pushedAll negated parts)
  | neg part => pushedBy (!negated) part
  | leaf c h => if negated then neg (leaf c h) else leaf c h

/-- Formulas with their negations pushed to the leaves. -/
def pushedAll (negated : Bool) : List Formula → List Formula
  | [] => []
  | p :: ps => pushedBy negated p :: pushedAll negated ps

end

/-- **A formula with its negations pushed to the leaves.** -/
def pushed (c : Formula) : Formula := c.pushedBy false

mutual

/-- Whether only leaves are negated. -/
def isNegationNormal : Formula → Bool
  | literal _ => true
  | all parts => areNegationNormal parts
  | any parts => areNegationNormal parts
  | neg (leaf _ _) => true
  | neg _ => false
  | leaf _ _ => true

/-- Whether only leaves are negated in formulas. -/
def areNegationNormal : List Formula → Bool
  | [] => true
  | p :: ps => isNegationNormal p && areNegationNormal ps

end

theorem pushedAll_eq_map (negated : Bool) (parts : List Formula) :
    pushedAll negated parts = parts.map (pushedBy negated) := by
  induction parts with
  | nil => rfl
  | cons p ps ih => rw [pushedAll, ih, List.map_cons]

theorem areNegationNormal_iff {parts : List Formula} :
    areNegationNormal parts = true ↔ ∀ p ∈ parts, p.isNegationNormal = true := by
  induction parts with
  | nil => simp [areNegationNormal]
  | cons p ps ih => rw [areNegationNormal, Bool.and_eq_true_iff, ih, List.forall_mem_cons]

/-- **Pushing negations leaves them at the leaves only.** -/
theorem isNegationNormal_pushedBy (negated : Bool) (c : Formula) :
    (c.pushedBy negated).isNegationNormal = true := by
  induction c generalizing negated with
  | literal b => rfl
  | all parts ih | any parts ih =>
    have hparts : areNegationNormal (pushedAll negated parts) = true := by
      rw [pushedAll_eq_map, areNegationNormal_iff, List.forall_mem_map]
      exact fun p hp => ih p hp negated
    cases negated <;> exact hparts
  | neg part ih => exact ih _
  | leaf c h => cases negated <;> rfl

/-- A formula writes a condition that is there. -/
theorem isNull_toValue (c : Formula) : c.toValue.isNull = false := by
  cases c with
  | leaf c h => exact h
  | _ => rfl

end Formula

/-! ### Evaluating connectives -/

/-- Whether a vocabulary has the built-in connectives; whatever else is in it, and in which order,
is left open. -/
structure Registry.HasConnectives (r : Registry) : Prop where
  all : r.conditions.lookup "and" = some .all
  any : r.conditions.lookup "or" = some .any
  negation : r.conditions.lookup "not" = some .negation

theorem Registry.hasConnectives_builtIn : Registry.builtIn.HasConnectives := ⟨rfl, rfl, rfl⟩

namespace Engine

open Formula

variable {en : Engine} (s : State)

/-- The rule for the only predicate of an object is the one that its key stands for. -/
theorem find?_predicate {α : Type} (rules : Rules α) (key : String) {operand : Value}
    (h : operand.isNull = false) :
    (rules.find? fun (k, _) => !((predicate key operand).field k).isNull) =
      (rules.lookup key).map fun rule => (key, rule) := by
  induction rules with
  | nil => rfl
  | cons entry rules ih =>
    obtain ⟨k, rule⟩ := entry
    by_cases hk : k = key
    · subst hk
      simp [h]
    · have hkey : (key == k) = false := beq_eq_false_iff_ne.mpr (Ne.symm hk)
      rw [List.find?_cons, List.lookup_cons, hkey]
      dsimp only
      rw [field_predicate_of_ne hk]
      exact ih

/-- **A condition with one predicate** is evaluated by the rule that the predicate stands for. -/
theorem evaluate_predicate {key : String} {operand : Value} {rule : ConditionRule}
    (hrule : en.registry.conditions.lookup key = some rule) (h : operand.isNull = false) :
    en.evaluate s (predicate key operand) = en.evaluateByRule s operand rule := by
  have hfield := field_predicate key operand
  have hfind := find?_predicate en.registry.conditions key h
  rw [hrule, Option.map_some] at hfind
  rw [predicate] at hfind hfield ⊢
  rw [evaluate, hfind]
  dsimp only
  rw [hfield]

variable (hen : en.registry.HasConnectives)
include hen

theorem evaluate_all (parts : List Formula) :
    en.evaluate s (all parts).toValue = en.evaluateItems s true (toValues parts) := by
  rw [toValue, evaluate_predicate s hen.all rfl, evaluateByRule, evaluateList]

theorem evaluate_any (parts : List Formula) :
    en.evaluate s (any parts).toValue = en.evaluateItems s false (toValues parts) := by
  rw [toValue, evaluate_predicate s hen.any rfl, evaluateByRule, evaluateList]

theorem evaluate_neg (part : Formula) :
    en.evaluate s (neg part).toValue = (!·) <$> en.evaluate s part.toValue := by
  rw [toValue, evaluate_predicate s hen.negation part.isNull_toValue, evaluateByRule]
  rfl

omit hen in
/-- Evaluating conditions in order until one decides: what decides, and what comes out, is negated
together with the conditions. -/
theorem evaluateItems_pushedAll {negated : Bool} {parts : List Formula}
    (h : ∀ p ∈ parts, en.evaluate s (p.pushedBy negated).toValue =
      (· != negated) <$> en.evaluate s p.toValue) (whole : Bool) :
    en.evaluateItems s (whole != negated) (toValues (pushedAll negated parts)) =
      (· != negated) <$> en.evaluateItems s whole (toValues parts) := by
  induction parts with
  | nil =>
    rw [pushedAll, toValues, evaluateItems, evaluateItems, map_pure]
  | cons p ps ih =>
    obtain ⟨hp, hps⟩ := List.forall_mem_cons.mp h
    rw [pushedAll, toValues, toValues, evaluateItems, evaluateItems, hp, bind_map_left, map_bind]
    refine bind_congr fun b => ?_
    by_cases hb : b = whole
    · rw [hb, if_pos rfl, if_pos rfl, ih hps]
    · have hne : (b != negated) ≠ (whole != negated) := by
        revert hb
        cases b <;> cases whole <;> cases negated <;> decide
      rw [if_neg hb, if_neg hne, map_pure]
      cases whole <;> cases negated <;> rfl

/-- **Pushing a negation inwards negates the outcome,** and changes nothing else. -/
theorem evaluate_pushedBy (negated : Bool) (c : Formula) :
    en.evaluate s (c.pushedBy negated).toValue =
      (· != negated) <$> en.evaluate s c.toValue := by
  induction c generalizing negated with
  | literal b =>
    rw [pushedBy, toValue, toValue, evaluate, evaluate, map_pure]
  | all parts ih =>
    have hitems := evaluateItems_pushedAll s (fun p hp => ih p hp negated) true
    rw [evaluate_all s hen, ← hitems, pushedBy]
    cases negated with
    | false => exact evaluate_all s hen _
    | true => exact evaluate_any s hen _
  | any parts ih =>
    have hitems := evaluateItems_pushedAll s (fun p hp => ih p hp negated) false
    rw [evaluate_any s hen, ← hitems, pushedBy]
    cases negated with
    | false => exact evaluate_any s hen _
    | true => exact evaluate_all s hen _
  | neg part ih =>
    rw [pushedBy, ih, evaluate_neg s hen, Functor.map_map]
    refine congrArg (· <$> _) (funext fun b => ?_)
    cases b <;> cases negated <;> rfl
  | leaf c h =>
    rw [pushedBy]
    cases negated with
    | false =>
      have hid : (fun b => b != false) = (id : Bool → Bool) := funext fun b => by simp
      rw [hid, id_map]
      rfl
    | true =>
      have hnot : (fun b => b != true) = (fun b : Bool => !b) := funext fun b => by simp
      rw [hnot]
      exact evaluate_neg s hen (leaf c h)

/-! ### What is evaluated -/

omit hen

mutual

/-- The leaves that evaluating a formula comes to, in order. -/
def visited (en : Engine) (s : State) : Formula → Exchange → List Value
  | .literal _, _ => []
  | .all parts, x => visitedItems en s true parts x
  | .any parts, x => visitedItems en s false parts x
  | .neg part, x => visited en s part x
  | .leaf c _, _ => [c]

/-- The leaves that evaluating formulas in order comes to until one of them decides. -/
def visitedItems (en : Engine) (s : State) (whole : Bool) :
    List Formula → Exchange → List Value
  | [], _ => []
  | p :: ps, x =>
    visited en s p x ++ match (en.evaluate s p.toValue).runFrom x with
      | (.ok b, x') => if b = whole then visitedItems en s whole ps x' else []
      | (.error _, _) => []

end

include hen

/-- The same formulas are come to if what decides is negated together with them. -/
theorem visitedItems_pushedAll {negated : Bool} {parts : List Formula}
    (h : ∀ p ∈ parts, ∀ x, en.visited s (p.pushedBy negated) x = en.visited s p x)
    (whole : Bool) (x : Exchange) :
    en.visitedItems s (whole != negated) (pushedAll negated parts) x =
      en.visitedItems s whole parts x := by
  induction parts generalizing x with
  | nil => rfl
  | cons p ps ih =>
    obtain ⟨hp, hps⟩ := List.forall_mem_cons.mp h
    rw [pushedAll, visitedItems, visitedItems, hp, evaluate_pushedBy s hen, Effect.runFrom_map]
    rcases (en.evaluate s p.toValue).runFrom x with ⟨_ | b, x'⟩
    · rfl
    · have hiff : (b != negated) = (whole != negated) ↔ b = whole := by
        cases b <;> cases whole <;> cases negated <;> decide
      simp only [Except.map, hiff, ih hps]

/-- **Pushing negations changes neither which leaves are come to nor their order.** -/
theorem visited_pushedBy (negated : Bool) (c : Formula) (x : Exchange) :
    en.visited s (c.pushedBy negated) x = en.visited s c x := by
  induction c generalizing negated x with
  | literal b => rfl
  | all parts ih =>
    have hitems := visitedItems_pushedAll s hen (fun p hp => ih p hp negated) true x
    cases negated <;> exact hitems
  | any parts ih =>
    have hitems := visitedItems_pushedAll s hen (fun p hp => ih p hp negated) false x
    cases negated <;> exact hitems
  | neg part ih => exact ih _ x
  | leaf c h => cases negated <;> rfl

/-- **Pushing negations to the leaves keeps what a condition does**: it comes to the same truth
value or fails in the same way, it sends the same requests and notes the same records, and on its
way it comes to the same leaves in the same order. Afterwards only leaves are negated. -/
theorem evaluate_pushed (c : Formula) :
    c.pushed.isNegationNormal = true ∧
      en.evaluate s c.pushed.toValue = en.evaluate s c.toValue ∧
      ∀ x, en.visited s c.pushed x = en.visited s c x := by
  refine ⟨isNegationNormal_pushedBy false c, ?_, visited_pushedBy s hen false c⟩
  have hid : (fun b => b != false) = (id : Bool → Bool) := funext fun b => by simp
  rw [pushed, evaluate_pushedBy s hen, hid, id_map]

end Engine

/-! ### A negated choice -/

/-- The condition that a remote action succeeds. -/
def Formula.remote (name : String) : Formula :=
  .leaf (Formula.predicate "remote" (.obj [(.str "name", .str name)])) rfl

/-- Neither one remote action succeeds nor, denied twice, another one. -/
def Formula.neither : Formula := .neg (.any [.remote "first", .neg (.neg (.remote "second"))])

/-- Both remote actions are still asked in turn, and each answer is negated on its own. -/
theorem Engine.evaluate_pushed_neither :
    Registry.builtIn.HasConnectives ∧
      Formula.neither.pushed =
        .all [.neg (.remote "first"), .neg (.remote "second")] ∧
      Formula.neither.pushed.isNegationNormal = true ∧
      Engine.bare.evaluate {} Formula.neither.pushed.toValue =
        Engine.bare.evaluate {} Formula.neither.toValue ∧
      ∀ x, Engine.bare.visited {} Formula.neither.pushed x =
        Engine.bare.visited {} Formula.neither x :=
  ⟨Registry.hasConnectives_builtIn, rfl,
    Engine.evaluate_pushed {} Registry.hasConnectives_builtIn Formula.neither⟩

end WizardLogic
