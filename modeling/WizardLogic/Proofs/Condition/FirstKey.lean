import Mathlib
import WizardLogic.Engine.Custom
import WizardLogic.Proofs.Condition.Equality
import WizardLogic.Proofs.Descriptor.Registration
import WizardLogic.Proofs.Value.Objects

/-!
# The key that decides a condition

Evaluators of conditions are registered one after the other, and a key may be registered again. The
vocabulary remembers of such a history what it needs to and no more. A key is looked up as if every
registration were put in front of those before it, so the last one counts
(`Rules.lookup_registered`); and the keys are gone through as if every registration were put behind
those before it, so the first one counts (`Rules.find?_tags_registered`).

A condition is therefore decided by the key that was registered first among those under which it has
anything but null, and by the evaluator that was registered last for that key
(`Engine.evaluate_registered`). Nothing else that the condition says has a part in it: neither keys
that were registered later, nor keys that are not known, nor the order in which the object lists
them.
-/

namespace WizardLogic

/-! ### Histories of registrations -/

namespace Rules

variable {α : Type}

/-- The rules after further registrations, from the first to the last. -/
def registered (rs history : Rules α) : Rules α :=
  history.foldl (fun rs g => rs.register g.1 g.2) rs

theorem registered_append (rs history later : Rules α) :
    rs.registered (history ++ later) = (rs.registered history).registered later :=
  List.foldl_append

/-- A rule that is registered is looked up as if it stood in front of all others. -/
theorem lookup_register_cons (tag : String) (rule : α) (rs : Rules α) (t : String) :
    (rs.register tag rule).lookup t = ((tag, rule) :: rs).lookup t := by
  by_cases h : t = tag
  · subst h
    rw [List.lookup_cons_self]
    induction rs with
    | nil => rw [register, List.lookup_cons_self]
    | cons r rs ih =>
      obtain ⟨t', rule'⟩ := r
      rw [register]
      split
      · next heq => rw [heq, List.lookup_cons_self]
      · next hne =>
        have hbeq : (t == t') = false := beq_false_of_ne (Ne.symm hne)
        rw [List.lookup_cons, hbeq, ih]
  · have hbeq : (t == tag) = false := beq_false_of_ne h
    rw [lookup_register h, List.lookup_cons, hbeq]

/-- The tags are gone through as if the one of a rule that is registered stood behind all others. -/
theorem find?_tags_register (p : String → Bool) (tag : String) (rule : α) (rs : Rules α) :
    (rs.register tag rule).tags.find? p = (rs.tags ++ [tag]).find? p := by
  induction rs with
  | nil => rfl
  | cons r rs ih =>
    obtain ⟨t, rule'⟩ := r
    rw [register]
    split
    -- The tag is known: if it is looked for at all, it is found before its second place.
    · next heq =>
      subst heq
      simp only [tags, List.map_cons, List.cons_append, List.find?_cons, List.find?_append]
      split
      · rfl
      · simp
    · simp only [tags, List.map_cons, List.cons_append, List.find?_cons] at ih ⊢
      rw [ih]

/-- **The rule that was registered last is found.** -/
theorem lookup_registered (history : Rules α) (rs : Rules α) (t : String) :
    (rs.registered history).lookup t = (history.reverse ++ rs).lookup t := by
  induction history generalizing rs with
  | nil => rfl
  | cons g history ih =>
    obtain ⟨tag, rule⟩ := g
    have hstep : (rs.registered ((tag, rule) :: history)) =
        (rs.register tag rule).registered history := rfl
    rw [hstep, ih, List.reverse_cons, List.append_assoc, List.singleton_append,
      List.lookup_append, List.lookup_append, lookup_register_cons]

/-- **The tags stay where they were registered first.** -/
theorem find?_tags_registered (p : String → Bool) (history : Rules α) (rs : Rules α) :
    (rs.registered history).tags.find? p = (rs.tags ++ history.tags).find? p := by
  induction history generalizing rs with
  | nil => simp [registered, tags]
  | cons g history ih =>
    obtain ⟨tag, rule⟩ := g
    have hstep : (rs.registered ((tag, rule) :: history)) =
        (rs.register tag rule).registered history := rfl
    rw [hstep, ih, List.find?_append, find?_tags_register, ← List.find?_append, List.append_assoc]
    rfl

/-- A search by tags is a search of the tags, and then the tag is looked up. -/
theorem find?_eq_bind_lookup (p : String → Bool) (rs : Rules α) :
    rs.find? (fun r => p r.1) =
      (rs.tags.find? p).bind fun t => (rs.lookup t).map fun rule => (t, rule) := by
  induction rs with
  | nil => rfl
  | cons r rs ih =>
    obtain ⟨t, rule⟩ := r
    cases hp : p t with
    | true => simp [tags, hp]
    | false =>
      rw [List.find?_cons_of_neg (by simp [hp]), ih]
      simp only [tags, List.map_cons, List.find?_cons, hp]
      refine Option.bind_congr fun t' ht' => ?_
      have hne : (t' == t) = false := beq_false_of_ne fun heq => by
        rw [heq] at ht'
        exact Bool.false_ne_true (hp.symm.trans (List.find?_some ht'))
      rw [List.lookup_cons, hne]

/-- **A history leaves a rule to a tag** if it is the last one registered for it. -/
def Leaves (history : Rules α) (tag : String) (rule : α) : Prop :=
  ∃ before after : Rules α, history = before ++ (tag, rule) :: after ∧ tag ∉ after.tags

/-- What is found from the back is the last of its tag. -/
theorem lookup_reverse_eq_some {history : Rules α} {tag : String} {rule : α} :
    history.reverse.lookup tag = some rule ↔ history.Leaves tag rule := by
  rw [List.lookup_eq_some_iff]
  constructor
  · rintro ⟨after, before, hreverse, hafter⟩
    refine ⟨before.reverse, after.reverse, ?_, fun hmem => ?_⟩
    · rw [← List.reverse_reverse history, hreverse]
      simp
    · obtain ⟨g, hg, htag⟩ := List.mem_map.mp hmem
      simpa [htag] using hafter g (List.mem_reverse.mp hg)
  · rintro ⟨before, after, rfl, hafter⟩
    refine ⟨after.reverse, before.reverse, by simp, fun g hg => ?_⟩
    rw [bne_iff_ne]
    rintro rfl
    exact hafter (List.mem_map_of_mem (List.mem_reverse.mp hg))

section Search

variable {p : String → Bool} {history : Rules α}

/-- **What a search by tags finds after a history**: the rule that it leaves to the first of its
tags that is looked for. -/
theorem find?_registered_eq_some {tag : String} {rule : α} :
    (registered [] history).find? (fun r => p r.1) = some (tag, rule) ↔
      (p tag = true ∧ ∃ before after, history.tags = before ++ tag :: after ∧
        ∀ t ∈ before, (!p t) = true) ∧ history.Leaves tag rule := by
  have htags : tags ([] : Rules α) ++ history.tags = history.tags := rfl
  rw [find?_eq_bind_lookup, find?_tags_registered, htags, Option.bind_eq_some_iff,
    ← List.find?_eq_some_iff_append, ← lookup_reverse_eq_some]
  simp [lookup_registered]

/-- A search by tags finds nothing after a history where none of its tags is looked for. -/
theorem find?_registered_eq_none :
    (registered [] history).find? (fun r => p r.1) = none ↔ ∀ t ∈ history.tags, p t = false := by
  have hmap : (registered [] history).tags.find? p =
      ((registered [] history).find? fun r => p r.1).map Prod.fst := List.find?_map
  rw [← Option.map_eq_none_iff, ← hmap, find?_tags_registered, List.find?_eq_none]
  simp [tags]

end Search

end Rules

/-! ### The deciding key -/

/-- Whether an object says nothing under a key: there is nothing or null. -/
def Entries.IsSilent (es : Entries Value) (key : String) : Prop :=
  ∀ v, (.str key, v) ∈ es → v.isNull = true

/-- **What decides a condition** after a history of registrations: the key that was registered first
among those under which the condition says anything, with what it says there, and the rule that was
registered last for the key. -/
structure Decides (history : Rules ConditionRule) (es : Entries Value) (key : String)
    (operand : Value) (rule : ConditionRule) : Prop where
  mem : (.str key, operand) ∈ es
  present : operand.isNull = false
  first : ∃ before after, history.tags = before ++ key :: after ∧ ∀ k ∈ before, es.IsSilent k
  last : history.Leaves key rule

namespace Entries.KeyedByTexts

variable {es : Entries Value}

theorem field_eq (hes : es.KeyedByTexts) {key : String} {v : Value} (h : (.str key, v) ∈ es) :
    (Value.obj es).field key = v :=
  Value.field_obj_of_get? (hes.mem_iff.mp h)

theorem isSilent_iff (hes : es.KeyedByTexts) (key : String) :
    es.IsSilent key ↔ ((Value.obj es).field key).isNull = true := by
  constructor
  · intro h
    by_cases hkey : .str key ∈ es.keys
    · obtain ⟨⟨k, v⟩, hmem, rfl⟩ := List.mem_map.mp hkey
      rw [hes.field_eq hmem]
      exact h v hmem
    · rw [Value.field_obj_of_not_mem hkey]
      rfl
  · intro h v hmem
    rwa [hes.field_eq hmem] at h

end Entries.KeyedByTexts

namespace Engine

variable {en : Engine} {es : Entries Value}

/-- An engine whose conditions have the built-in rules and then those of a history of
registrations. -/
def withEvaluators (en : Engine) (history : Rules ConditionRule) : Engine :=
  { en with registry := { en.registry with
      conditions := Registry.builtIn.conditions.registered history } }

/-- The history that all rules for conditions come from. -/
def evaluatorHistory (history : Rules ConditionRule) : Rules ConditionRule :=
  Registry.builtIn.conditions ++ history

theorem conditionRule?_withEvaluators (history : Rules ConditionRule) (c : Value) :
    (en.withEvaluators history).conditionRule? c =
      (Rules.registered [] (evaluatorHistory history)).find? fun r => !(c.field r.1).isNull := by
  rw [evaluatorHistory, Rules.registered_append]
  rfl

/-- The rule that is found for a condition is the one that decides it. -/
theorem conditionRule?_eq_some_iff (en : Engine) (hes : es.KeyedByTexts)
    {history : Rules ConditionRule} {key : String} {operand : Value} {rule : ConditionRule}
    (hmem : (.str key, operand) ∈ es) :
    (en.withEvaluators history).conditionRule? (.obj es) = some (key, rule) ↔
      Decides (evaluatorHistory history) es key operand rule := by
  rw [conditionRule?_withEvaluators,
    Rules.find?_registered_eq_some (p := fun k => !((Value.obj es).field k).isNull)]
  simp only [Bool.not_not, ← hes.isSilent_iff, hes.field_eq hmem, Bool.not_eq_true']
  exact ⟨fun ⟨⟨hpresent, hfirst⟩, hlast⟩ => ⟨hmem, hpresent, hfirst, hlast⟩,
    fun h => ⟨⟨h.present, h.first⟩, h.last⟩⟩

/-- No rule is found for a condition that says nothing under any key of the history. -/
theorem conditionRule?_eq_none_iff (en : Engine) (hes : es.KeyedByTexts)
    {history : Rules ConditionRule} :
    (en.withEvaluators history).conditionRule? (.obj es) = none ↔
      ∀ key ∈ (evaluatorHistory history).tags, es.IsSilent key := by
  rw [conditionRule?_withEvaluators,
    Rules.find?_registered_eq_none (p := fun k => !((Value.obj es).field k).isNull)]
  simp only [Bool.not_eq_false', ← hes.isSilent_iff]

/-- **A condition is decided by the key that was registered first and the evaluator that was
registered last.** Whatever was registered after the built-in evaluators, a condition either says
something under a known key, and then it is evaluated as its evaluator evaluates its operand; or it
says nothing under any, and then it does not hold and nothing happens. -/
theorem evaluate_registered (en : Engine) (history : Rules ConditionRule) (hes : es.KeyedByTexts)
    (s : State) :
    (∀ key operand rule, Decides (evaluatorHistory history) es key operand rule →
      (en.withEvaluators history).evaluate s (.obj es) =
        (en.withEvaluators history).evaluateByRule s operand rule) ∧
    ((∀ key ∈ (evaluatorHistory history).tags, es.IsSilent key) →
      (en.withEvaluators history).evaluate s (.obj es) = pure false) ∧
    ((∃ key operand rule, Decides (evaluatorHistory history) es key operand rule) ∨
      ∀ key ∈ (evaluatorHistory history).tags, es.IsSilent key) := by
  refine ⟨fun key operand rule h => ?_, fun h => ?_, ?_⟩
  · have hrule := (conditionRule?_eq_some_iff en hes h.mem).mpr h
    rw [evaluate_of_rule hrule, hes.field_eq h.mem]
  · rw [evaluate_obj, (conditionRule?_eq_none_iff en hes).mpr h]
  · cases hrule : (en.withEvaluators history).conditionRule? (.obj es) with
    | none => exact .inr ((conditionRule?_eq_none_iff en hes).mp hrule)
    | some found =>
      obtain ⟨key, rule⟩ := found
      have hsays : ¬ es.IsSilent key := by
        rw [hes.isSilent_iff]
        simpa using List.find?_some hrule
      obtain ⟨operand, hmem, -⟩ : ∃ v, (.str key, v) ∈ es ∧ ¬ v.isNull = true := by
        simpa [Entries.IsSilent] using hsays
      exact .inl ⟨key, operand, rule, (conditionRule?_eq_some_iff en hes hmem).mp hrule⟩

end Engine

/-! ### A key in its old place -/

/-- A history that adds a key twice, and gives a built-in key another evaluator. -/
def answerHistory : Rules ConditionRule :=
  [("answer", .negation), ("not", .custom .saysYes), ("answer", .custom .saysYes)]

/-- A condition with an operand under the added key, null under a built-in key, an operand under a
key that is not known, and one under the other built-in key. -/
def answered : Entries Value :=
  [(.str "answer", .str "no"), (.str "isEmpty", .null), (.str "else", .bool true),
    (.str "not", .str "yes")]

theorem keyedByTexts_answered : answered.KeyedByTexts where
  texts := by simp [answered, Entries.keys]
  nodup := by decide

theorem decides_answered :
    Decides (Engine.evaluatorHistory answerHistory) answered "not" (.str "yes")
      (.custom .saysYes) where
  mem := by simp [answered]
  present := rfl
  first := by
    refine ⟨["isEmpty", "matchesRegex", "equals", "lessThan", "moreThan", "and", "or"],
      ["remote", "context", "answer", "not", "answer"], rfl, ?_⟩
    simp [Entries.IsSilent, answered, Value.isNull]
  last := ⟨Registry.builtIn.conditions ++ [("answer", .negation)],
    [("answer", .custom .saysYes)], rfl, by decide⟩

/-- The built-in key decides, by its new evaluator and although it is listed last. -/
theorem Engine.evaluate_registered_answered :
    answered.KeyedByTexts ∧
      Decides (evaluatorHistory answerHistory) answered "not" (.str "yes") (.custom .saysYes) ∧
      (bare.withEvaluators answerHistory).evaluate World.ofCaller.state (.obj answered) =
        pure true := by
  refine ⟨keyedByTexts_answered, decides_answered, ?_⟩
  have hregistered := evaluate_registered bare answerHistory keyedByTexts_answered
    World.ofCaller.state
  rw [hregistered.1 "not" (.str "yes") (.custom .saysYes) decides_answered, evaluateByRule]
  rfl

end WizardLogic
