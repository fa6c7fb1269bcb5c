import Mathlib
import WizardLogic.Engine.Condition
import WizardLogic.Proofs.Context.Agreement
import WizardLogic.Proofs.Run.Balance

/-!
# What a condition reads of the state

A condition reads the state through the contexts that stand in it (`Value.ConditionHasContext`),
and through the values of the step that its queries are asked of. So evaluating a condition in
states that correspond for these contexts is related (`Engine.related_evaluate`), by induction along
the conditions that a condition is put together from (`Value.condition_induction`).

Two states agree on some contexts if they show the same wherever these look (`State.AgreeOn`);
whatever else is in them may differ. Then each context comes to the same value in both, and each
condition to the same truth value, with the same failures, records and requests
(`Engine.depends_on_contexts`).
-/

namespace WizardLogic

/-! ### The parts of a condition -/

/-- **The induction along the parts of a condition**: a statement about conditions may be shown of
each from those in its lists and, if it is an object, from those in its fields. -/
theorem Value.condition_induction {P : Value → Prop}
    (step : ∀ c, (∀ key items, c.field key = .list items → ∀ part ∈ items, P part) →
      (∀ es, c = .obj es → ∀ key, P (c.field key)) → P c)
    (c : Value) : P c := by
  induction hn : sizeOf c using Nat.strong_induction_on generalizing c with
  | _ n ih =>
    subst hn
    refine step c (fun key items hitems part hpart => ih _ ?_ part rfl) fun es hes key => ?_
    · cases c with
      | obj es =>
        have hfield := Value.sizeOf_field_lt es key
        have hmember := List.sizeOf_lt_of_mem hpart
        rw [hitems, Value.list.sizeOf_spec] at hfield
        omega
      | _ => cases hitems
    · subst hes
      exact ih _ (Value.sizeOf_field_lt es key) _ rfl

/-- The predicates that are about a context. -/
def aboutContext : List String := ["isEmpty", "matchesRegex", "equals", "lessThan", "moreThan"]

/-- The predicates that compare with a context. -/
def comparisons : List String := ["equals", "lessThan", "moreThan"]

/-- The predicates that put conditions together. -/
def connectives : List String := ["and", "or"]

/-- The value in which a remote condition lists its contexts. -/
def Value.remoteContexts (operand : Value) : Value :=
  (operand.field "context").orElse (operand.field "contexts")

theorem Value.part_remoteContextsField (operand : Value) :
    operand.part (remoteContextsField operand) = operand.remoteContexts := by
  unfold remoteContextsField remoteContexts orElse
  split <;> rfl

/-- **A context stands in a condition** if a predicate of the condition resolves it or one in which
it stands, or if it stands in a part of the condition. -/
inductive Value.ConditionHasContext : Value → Value → Prop
  | subject {c e : Value} {key : String} : key ∈ aboutContext →
      ((c.field key).field "context").HasContext e → ConditionHasContext c e
  | compared {c e : Value} {key : String} : key ∈ comparisons →
      ((c.field key).field "value").HasContext e → ConditionHasContext c e
  | truth {c e : Value} : (c.field "context").HasContext e → ConditionHasContext c e
  | remote {c d e : Value} {items : List Value} : (c.field "remote").remoteContexts = .list items →
      d ∈ items → d.HasContext e → ConditionHasContext c e
  | part {c part e : Value} {key : String} {items : List Value} : key ∈ connectives →
      c.field key = .list items → part ∈ items → ConditionHasContext part e →
      ConditionHasContext c e
  | negated {c e : Value} : ConditionHasContext (c.field "not") e → ConditionHasContext c e

/-! ### Related evaluations -/

namespace Engine

variable {en : Engine} {R : Exchange → Exchange → Prop} {A : Holding → Holding → Prop}
  {reads : Value → Prop} {s t : State}

theorem related_requireObject (v : Value) :
    Effect.Related R Eq (requireObject v) (requireObject v) := by
  unfold requireObject
  split
  · exact .pure rfl
  · exact .throw _

/-- Conditions that are evaluated alike are evaluated alike in a list. -/
theorem related_evaluateItems (whole : Bool) {items : List Value}
    (h : ∀ c ∈ items, Effect.Related R Eq (en.evaluate s c) (en.evaluate t c)) :
    Effect.Related R Eq (en.evaluateItems s whole items) (en.evaluateItems t whole items) := by
  induction items with
  | nil =>
    rw [evaluateItems, evaluateItems]
    exact .pure rfl
  | cons c rest ih =>
    obtain ⟨hc, hrest⟩ := List.forall_mem_cons.mp h
    rw [evaluateItems, evaluateItems]
    refine .bind_eq hc fun b => ?_
    split
    · exact ih hrest
    · exact .pure rfl

theorem related_evaluateList (whole : Bool) {operand : Value}
    (h : ∀ items, operand = .list items → ∀ c ∈ items,
      Effect.Related R Eq (en.evaluate s c) (en.evaluate t c)) :
    Effect.Related R Eq (en.evaluateList s whole operand) (en.evaluateList t whole operand) := by
  cases operand with
  | list items =>
    rw [evaluateList, evaluateList]
    exact related_evaluateItems whole (h items rfl)
  -- Other values that can be gone through have no conditions as members.
  | _ =>
    rw [evaluateList.eq_def, evaluateList.eq_def]
    dsimp only
    split
    · exact .throw _
    · exact .pure rfl
    · exact .fail _

/-! ### Tests -/

/-- What a condition asks for is found in parts of its operand. -/
theorem resolveValue_operandServices (operand : Value) (s : State) (p : PartPath) :
    (en.operandServices operand).resolveValue s p = en.resolveValue s (operand.part p) := by
  rw [operandServices]
  rfl

theorem resolveAll_operandServices (operand : Value) (s : State) (p : PartPath) :
    (en.operandServices operand).resolveAll s p = en.resolveAll s (operand.part p) := by
  rw [operandServices]

section Tests

variable {services : Services} {operand : Value}

theorem related_subject (hcurrent : s.currentStepValues = t.currentStepValues)
    (hcontext : Effect.Related R Eq (services.resolveValue s "context")
      (services.resolveValue t "context")) :
    Effect.Related R Eq (services.subject s operand) (services.subject t operand) := by
  unfold Services.subject
  rw [hcurrent]
  refine .bind_eq (related_requireObject _) fun _ => ?_
  split
  · exact .bind_eq hcontext fun v => .pure rfl
  · split
    · exact .bind_eq (.ofExcept_self _) fun v => .pure rfl
    · exact .pure rfl

theorem related_leftSide (absent : Value)
    (hcontext : Effect.Related R Eq (services.resolveValue s "context")
      (services.resolveValue t "context")) :
    Effect.Related R Eq (services.leftSide s operand absent)
      (services.leftSide t operand absent) := by
  unfold Services.leftSide
  refine .bind_eq (related_requireObject _) fun _ => ?_
  split
  · exact hcontext
  · exact .pure rfl

theorem related_rightSide
    (hvalue : Effect.Related R Eq (services.resolveValue s "value")
      (services.resolveValue t "value")) :
    Effect.Related R Eq (services.rightSide s operand) (services.rightSide t operand) := by
  unfold Services.rightSide
  dsimp only
  split
  · exact hvalue
  · exact .pure rfl

theorem related_evaluateMatches (hcurrent : s.currentStepValues = t.currentStepValues)
    (hcontext : Effect.Related R Eq (services.resolveValue s "context")
      (services.resolveValue t "context")) :
    Effect.Related R Eq (services.evaluateMatches s operand)
      (services.evaluateMatches t operand) := by
  unfold Services.evaluateMatches
  refine .bind_eq (related_subject hcurrent hcontext) fun found => ?_
  cases found with
  | none => exact .pure rfl
  | some v =>
    refine .bind_eq (.ofExcept_self _) fun node => ?_
    split
    · exact .pure rfl
    · exact .throw _

theorem related_evaluateOrder (order : Ordering)
    (hcontext : Effect.Related R Eq (services.resolveValue s "context")
      (services.resolveValue t "context"))
    (hvalue : Effect.Related R Eq (services.resolveValue s "value")
      (services.resolveValue t "value")) :
    Effect.Related R Eq (services.evaluateOrder s order operand)
      (services.evaluateOrder t order operand) := by
  unfold Services.evaluateOrder Services.numberSides
  refine .bind_eq (.bind_eq (related_leftSide _ hcontext) fun left => ?_) fun _ => .pure rfl
  refine .bind_eq (related_rightSide hvalue) fun right => ?_
  exact .bind_eq (.ofFault_self _) fun _ => .bind_eq (.ofFault_self _) fun _ => .pure rfl

theorem related_evaluateRemote (hcalls : en.CallsAlike R) (h : s.Corresponds A reads t)
    (hcontexts : Effect.Related R (Entries.Corresponds A)
      (services.resolveAll s (remoteContextsField operand))
      (services.resolveAll t (remoteContextsField operand))) :
    Effect.Related R Eq (en.evaluateRemote services s operand)
      (en.evaluateRemote services t operand) := by
  unfold evaluateRemote
  refine .bind_eq (related_requireObject _) fun _ => ?_
  dsimp only
  split
  · exact .fail _
  · refine hcontexts.bind fun bound bound' hb => ?_
    rw [h.currentStepValues_eq, h.lookAll_eq hb]
    exact .bind_eq (hcalls _ _) fun result => .pure rfl

end Tests

/-! ### Predicates and conditions -/

variable (hen : en.registry = .builtIn) (hcalls : en.CallsAlike R)
include hen hcalls

theorem related_resolveValue (d : Value) (h : s.Corresponds A d.HasContext t) :
    Effect.Related R Eq (en.resolveValue s d) (en.resolveValue t d) :=
  (related_resolve hen hcalls d h).bind fun _ _ hheld => .pure (h.look_eq hheld)

/-- A context in a part of an operand is resolved alike. -/
theorem related_resolveValue_operand (operand : Value) (p : PartPath)
    (h : s.Corresponds A reads t) (hpart : ∀ e, (operand.part p).HasContext e → reads e) :
    Effect.Related R Eq ((en.operandServices operand).resolveValue s p)
      ((en.operandServices operand).resolveValue t p) := by
  rw [resolveValue_operandServices, resolveValue_operandServices]
  exact related_resolveValue hen hcalls _ (h.mono hpart)

/-- The contexts that a remote condition lists are resolved alike. -/
theorem related_resolveAll_operand {operand : Value} (h : s.Corresponds A reads t)
    (hcontexts : ∀ items, operand.remoteContexts = .list items → ∀ d ∈ items, ∀ e, d.HasContext e →
      reads e) :
    Effect.Related R (Entries.Corresponds A)
      ((en.operandServices operand).resolveAll s (remoteContextsField operand))
      ((en.operandServices operand).resolveAll t (remoteContextsField operand)) := by
  rw [resolveAll_operandServices, resolveAll_operandServices, Value.part_remoteContextsField]
  exact related_resolveAll fun items hitems d hd =>
    related_resolve hen hcalls d (h.mono (hcontexts items hitems d hd))

/-- **The rule of a predicate reads what the contexts of the predicate name**, given that this is so
for the parts of the condition. -/
theorem related_evaluateByRule {c : Value} {key : String} {rule : ConditionRule}
    (hmem : (key, rule) ∈ Registry.builtIn.conditions) (h : s.Corresponds A c.ConditionHasContext t)
    (hparts : key ∈ connectives → ∀ items, c.field key = .list items → ∀ part ∈ items,
      Effect.Related R Eq (en.evaluate s part) (en.evaluate t part))
    (hnegated : key = "not" →
      Effect.Related R Eq (en.evaluate s (c.field key)) (en.evaluate t (c.field key))) :
    Effect.Related R Eq (en.evaluateByRule s (c.field key) rule)
      (en.evaluateByRule t (c.field key) rule) := by
  have hcurrent := h.currentStepValues_eq
  rw [evaluateByRule.eq_def, evaluateByRule.eq_def]
  cases rule with
  | isEmpty =>
    obtain rfl : key = "isEmpty" := by simpa [Registry.builtIn] using hmem
    have hcontext := related_resolveValue_operand hen hcalls (c.field "isEmpty") "context" h
      fun e he => .subject (by decide) he
    dsimp only
    unfold Services.evaluateIsEmpty
    refine .bind_eq (related_subject hcurrent hcontext) ?_
    rintro (_ | v) <;> exact .pure rfl
  | matchesRegex =>
    obtain rfl : key = "matchesRegex" := by simpa [Registry.builtIn] using hmem
    exact related_evaluateMatches hcurrent <|
      related_resolveValue_operand hen hcalls _ "context" h fun e he => .subject (by decide) he
  | equals =>
    obtain rfl : key = "equals" := by simpa [Registry.builtIn] using hmem
    have hcontext := related_resolveValue_operand hen hcalls (c.field "equals") "context" h
      fun e he => .subject (by decide) he
    have hvalue := related_resolveValue_operand hen hcalls (c.field "equals") "value" h
      fun e he => .compared (by decide) he
    dsimp only
    unfold Services.evaluateEquals
    exact .bind_eq (related_leftSide _ hcontext) fun _ =>
      .bind_eq (related_rightSide hvalue) fun _ => .pure rfl
  | lessThan =>
    obtain rfl : key = "lessThan" := by simpa [Registry.builtIn] using hmem
    exact related_evaluateOrder .lt
      (related_resolveValue_operand hen hcalls _ "context" h fun e he => .subject (by decide) he)
      (related_resolveValue_operand hen hcalls _ "value" h fun e he => .compared (by decide) he)
  | moreThan =>
    obtain rfl : key = "moreThan" := by simpa [Registry.builtIn] using hmem
    exact related_evaluateOrder .gt
      (related_resolveValue_operand hen hcalls _ "context" h fun e he => .subject (by decide) he)
      (related_resolveValue_operand hen hcalls _ "value" h fun e he => .compared (by decide) he)
  | all =>
    obtain rfl : key = "and" := by simpa [Registry.builtIn] using hmem
    exact related_evaluateList true (hparts (by decide))
  | any =>
    obtain rfl : key = "or" := by simpa [Registry.builtIn] using hmem
    exact related_evaluateList false (hparts (by decide))
  | negation =>
    obtain rfl : key = "not" := by simpa [Registry.builtIn] using hmem
    exact .bind_eq (hnegated rfl) fun _ => .pure rfl
  | remote =>
    obtain rfl : key = "remote" := by simpa [Registry.builtIn] using hmem
    exact related_evaluateRemote hcalls h <|
      related_resolveAll_operand hen hcalls h fun items hitems d hd e he => .remote hitems hd he
  | context =>
    obtain rfl : key = "context" := by simpa [Registry.builtIn] using hmem
    have hcontext := related_resolveValue_operand hen hcalls _ [] h fun e he => .truth he
    exact .bind_eq hcontext fun _ => .pure rfl
  | custom handler => simp [Registry.builtIn] at hmem

/-- **Evaluating a condition reads what the contexts standing in it name.** -/
theorem related_evaluate (c : Value) (h : s.Corresponds A c.ConditionHasContext t) :
    Effect.Related R Eq (en.evaluate s c) (en.evaluate t c) := by
  induction c using Value.condition_induction with
  | step c ihparts ihfield =>
    cases c with
    | bool b =>
      rw [evaluate, evaluate]
      exact .pure rfl
    | obj es =>
      rw [evaluate, evaluate, hen]
      generalize hfind : Registry.builtIn.conditions.find? _ = found?
      cases found? with
      | none => exact .pure rfl
      | some found =>
        obtain ⟨key, rule⟩ := found
        refine related_evaluateByRule hen hcalls (List.mem_of_find?_eq_some hfind) h
          (fun hkey items hitems part hpart => ?_) fun hkey => ?_
        · exact ihparts key items hitems part hpart
            (h.mono fun e he => .part hkey hitems hpart he)
        · subst hkey
          exact ihfield es rfl "not" (h.mono fun e he => .negated he)
    | _ =>
      rw [evaluate.eq_def, evaluate.eq_def]
      exact .fail _

end Engine

/-! ### States that agree -/

/-- **Two states agree on some contexts**: they show the same values of the steps, they have the
same innermost group, and each component, loop and local context that one of these contexts
addresses is the same in both or absent from both. -/
structure State.AgreeOn (reads : Value → Prop) (s t : State) : Prop where
  currentStepValues_eq : s.currentStepValues = t.currentStepValues
  allStepValues_eq : s.allStepValues = t.allStepValues
  groupIndex?_eq : s.groupIndex? = t.groupIndex?
  component_eq : ∀ d, reads d → d.field "type" = .str "COMPONENT_VALUES" →
    ∀ k, (d.field "componentName").toKey? = some k →
      s.componentStates.get? k = t.componentStates.get? k
  frame_eq : ∀ d, reads d → d.field "type" = .str "FOREACH" →
    s.findFrame? (d.field "forEachName") = t.findFrame? (d.field "forEachName")
  localContext_eq : ∀ d, reads d → ∀ type ∈ localTypes, d.field "type" = .str type →
    ∀ k, (d.field "key").toKey? = some k →
      (s.localContexts.get? k).map s.look = (t.localContexts.get? k).map t.look

/-- States that agree correspond, if local contexts that show the same value count as the same. -/
theorem State.AgreeOn.corresponds {reads : Value → Prop} {s t : State} (h : s.AgreeOn reads t) :
    s.Corresponds (fun held held' => s.look held = t.look held') reads t where
  refl held := by
    rcases held with v | (_ | _)
    · rfl
    · exact congrArg Value.obj h.currentStepValues_eq
    · exact congrArg Value.obj h.allStepValues_eq
  look_eq hheld := hheld
  groupIndex?_eq := h.groupIndex?_eq
  component_eq d hd htype := by
    unfold lookUp
    cases hkey : (d.field "componentName").toKey? with
    | none => rfl
    | some k => exact congrArg Except.ok (h.component_eq d hd htype k hkey)
  frame_eq := h.frame_eq
  local_rel d hd type htype hd' k hk := by
    have hshown := h.localContext_eq d hd type htype hd' k hk
    cases hs : s.localContexts.get? k <;> cases ht : t.localContexts.get? k <;>
      rw [hs, ht] at hshown
    · exact .none
    · cases hshown
    · cases hshown
    · exact .some (Option.some.inj hshown)

end WizardLogic
