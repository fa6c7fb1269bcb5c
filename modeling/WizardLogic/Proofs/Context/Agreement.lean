import Mathlib
import WizardLogic.Proofs.Context.Scope

/-!
# What a context reads of the state

Two states *correspond* for some contexts (`State.Corresponds`) if they have in common what these
contexts name: the values of the steps, the innermost group, the components, the loops and the local
contexts that they address. Resolving a context in states that correspond for the contexts standing
in it is related (`Engine.related_resolve`): it goes on in parallel outside, and what it comes to
corresponds.

When local contexts count as corresponding is a parameter: those that show the same value, or only
those that are the same. The bindings of a level are written over the local contexts of both states
alike, so the states still correspond for the rule of that level; those nested in the context are
resolved in the states as they were.
-/

namespace WizardLogic

/-! ### States that correspond -/

/-- The types of contexts that read a local context. -/
def localTypes : List String := ["LOCAL_CONTEXT", "LOCAL"]

/-- **Two states correspond for some contexts**: whatever these address is the same in both, where
local contexts are compared by a relation under which equals show equal values. -/
structure State.Corresponds (A : Holding → Holding → Prop) (reads : Value → Prop) (s t : State) :
    Prop where
  refl : ∀ h, A h h
  look_eq : ∀ {h h'}, A h h' → s.look h = t.look h'
  groupIndex?_eq : s.groupIndex? = t.groupIndex?
  component_eq : ∀ d, reads d → d.field "type" = .str "COMPONENT_VALUES" →
    lookUp s.componentStates (d.field "componentName") =
      lookUp t.componentStates (d.field "componentName")
  frame_eq : ∀ d, reads d → d.field "type" = .str "FOREACH" →
    s.findFrame? (d.field "forEachName") = t.findFrame? (d.field "forEachName")
  local_rel : ∀ d, reads d → ∀ type ∈ localTypes, d.field "type" = .str type →
    ∀ k, (d.field "key").toKey? = some k →
      Option.Rel A (s.localContexts.get? k) (t.localContexts.get? k)

namespace State.Corresponds

variable {A : Holding → Holding → Prop} {reads reads' : Value → Prop} {s t : State}
  {bindings bindings' : Entries Holding}

theorem mono (h : s.Corresponds A reads t) (hreads : ∀ d, reads' d → reads d) :
    s.Corresponds A reads' t where
  refl := h.refl
  look_eq := h.look_eq
  groupIndex?_eq := h.groupIndex?_eq
  component_eq d hd := h.component_eq d (hreads d hd)
  frame_eq d hd := h.frame_eq d (hreads d hd)
  local_rel d hd := h.local_rel d (hreads d hd)

theorem currentStepValues_eq (h : s.Corresponds A reads t) :
    s.currentStepValues = t.currentStepValues :=
  Value.obj.inj (h.look_eq (h.refl (.slice .currentStepValues)))

theorem allStepValues_eq (h : s.Corresponds A reads t) : s.allStepValues = t.allStepValues :=
  Value.obj.inj (h.look_eq (h.refl (.slice .allStepValues)))

/-- Bindings that correspond show the same values. -/
theorem lookAll_eq (h : s.Corresponds A reads t) (hb : Entries.Corresponds A bindings bindings') :
    s.lookAll bindings = t.lookAll bindings' := by
  induction hb with
  | nil => rfl
  | @cons e e' bindings bindings' he _ ih =>
    have hentry : (e.1, s.look e.2) = (e'.1, t.look e'.2) := Prod.ext he.1 (h.look_eq he.2)
    exact congrArg₂ List.cons hentry ih

/-- **Corresponding bindings leave states corresponding** when they are laid over them. -/
theorem overlay (h : s.Corresponds A reads t) (hb : Entries.Corresponds A bindings bindings') :
    (s.overlay bindings).Corresponds A reads (t.overlay bindings') where
  refl := h.refl
  look_eq := h.look_eq
  groupIndex?_eq := h.groupIndex?_eq
  component_eq := h.component_eq
  frame_eq := h.frame_eq
  local_rel d hd type htype hd' k hk :=
    Entries.rel_get?_merge (h.local_rel d hd type htype hd' k hk) hb

end State.Corresponds

/-! ### Related resolutions -/

namespace Engine

variable {en : Engine} {R : Exchange → Exchange → Prop} {A : Holding → Holding → Prop}
  {reads : Value → Prop} {s t : State} {bindings bindings' : Entries Holding}

/-- What follows a required field may take the field for granted. -/
theorem related_bind_requireField {α β : Type} {B : α → β → Prop} {d : Value} {field : String}
    {k : Value → Effect α} {l : Value → Effect β}
    (h : Effect.Related R B (k (d.field field)) (l (d.field field))) :
    Effect.Related R B (requireField d field >>= k) (requireField d field >>= l) := by
  unfold requireField
  split
  · exact .throw _
  · exact .throw _
  · exact h

theorem related_select (h : s.Corresponds A reads t) (expression : Value) {held held' : Holding}
    (hheld : A held held') (hb : Entries.Corresponds A bindings bindings') :
    Effect.Related R A (select s expression held bindings)
      (select t expression held' bindings') := by
  unfold select
  split
  · exact .pure hheld
  · rw [h.look_eq hheld, h.lookAll_eq hb]
    refine .ofExcept ?_
    exact (EndAlike.refl _).map fun v _ hv => hv ▸ h.refl (.value v)

/-- Contexts that are resolved alike and written under their keys correspond. -/
theorem related_resolveAll {v : Value}
    (h : ∀ items, v = .list items → ∀ c ∈ items,
      Effect.Related R A (en.resolve s c) (en.resolve t c)) :
    Effect.Related R (Entries.Corresponds A) (en.resolveAll s v) (en.resolveAll t v) := by
  by_cases hlist : ∃ items, v = .list items
  · obtain ⟨items, rfl⟩ := hlist
    rw [resolveAll_list, resolveAll_list]
    have hkeyed : Effect.Related R (Entries.Corresponds A) (items.mapM (en.resolveKeyed s))
        (items.mapM (en.resolveKeyed t)) := by
      refine .mapM fun c hc => ?_
      unfold resolveKeyed
      split
      · exact .fail _
      · refine (h items rfl c hc).bind fun held held' hheld => ?_
        cases (c.field "key").toKey? with
        | none => exact .throw _
        | some k => exact .pure ⟨rfl, hheld⟩
    exact hkeyed.map fun _ _ hfound => Entries.Corresponds.merge .nil hfound
  · have hne : ∀ items, v ≠ .list items := fun items hv => hlist ⟨items, hv⟩
    rw [resolveAll_of_ne_list s hne, resolveAll_of_ne_list t hne]
    split
    · exact .pure .nil
    · split
      · exact .fail _
      · exact .throw _

variable (hen : en.registry = .builtIn) (hcalls : en.CallsAlike R)
include hen hcalls

/-- **The rule of a context reads what the context names**, and nothing else of the state. -/
theorem related_resolveByRule {d : Value} {rule : ContextRule} (hrule : en.contextRule d = .ok rule)
    (services services' : Services) (h : s.Corresponds A reads t) (hd : reads d)
    (hb : Entries.Corresponds A bindings bindings') :
    Effect.Related R A (en.resolveByRule services s d bindings rule)
      (en.resolveByRule services' t d bindings' rule) := by
  obtain ⟨type, htype, hmem⟩ := exists_type_of_contextRule hrule
  rw [hen] at hmem
  have hcurrent := h.currentStepValues_eq
  have hlook := h.lookAll_eq hb
  have hvalue (v : Value) : A (.value v) (.value v) := h.refl (.value v)
  cases rule with
  | value => exact .pure (hvalue _)
  | currentStepValues => exact related_select h _ (h.refl _) hb
  | allStepValues => exact related_select h _ (h.refl _) hb
  | componentValues =>
    obtain rfl : type = "COMPONENT_VALUES" := by simpa [Registry.builtIn] using hmem
    refine related_bind_requireField ?_
    rw [h.component_eq d hd htype]
    exact .bind_eq (.ofFault_self _) fun found => related_select h _ (hvalue _) hb
  | template =>
    refine related_bind_requireField ?_
    rw [hcurrent, h.allStepValues_eq, hlook]
    exact .bind_eq (.ofExcept_self _) fun text => .pure (hvalue _)
  | remoteAction =>
    refine related_bind_requireField ?_
    rw [hcurrent, hlook]
    exact .bind_eq (hcalls _ _) fun result => .pure (hvalue _)
  | loop =>
    obtain rfl : type = "FOREACH" := by simpa [Registry.builtIn] using hmem
    refine related_bind_requireField ?_
    rw [h.frame_eq d hd htype]
    cases t.findFrame? (d.field "forEachName") with
    | none => exact .fail _
    | some frame =>
      dsimp only
      split
      · exact related_select h _ (hvalue _) hb
      · exact .pure (hvalue _)
  | groupIndex =>
    rw [resolveByRule, resolveByRule, h.groupIndex?_eq]
    split
    · exact .fail _
    · exact related_select h _ (hvalue _) hb
  | localContext =>
    have hlocal : type ∈ localTypes := by simpa [Registry.builtIn, localTypes] using hmem
    refine related_bind_requireField ?_
    unfold lookUp
    cases hkey : (d.field "key").toKey? with
    | none => exact .throw _
    | some k =>
      refine .bind (.ofExcept (.ok (h.local_rel d hd type hlocal htype k hkey))) ?_
      rintro _ _ (hfound | -)
      · exact related_select h _ hfound hb
      · exact related_select h _ (h.refl _) hb
  | custom handler => simp [Registry.builtIn] at hmem

/-- **Resolving a context reads what the contexts standing in it name.** -/
theorem related_resolve (d : Value) (h : s.Corresponds A d.HasContext t) :
    Effect.Related R A (en.resolve s d) (en.resolve t d) := by
  induction d using Value.context_induction with
  | step d ih =>
    cases hrule : en.contextRule d with
    | error e =>
      rw [resolve_eq, resolve_eq, hrule]
      exact .fail e
    | ok rule =>
      rw [resolve_of_rule s hrule, resolve_of_rule t hrule]
      -- The nested contexts are resolved in the states as they are, not in the overlaid ones.
      have hnested : Effect.Related R (Entries.Corresponds A)
          (en.resolveAll s (d.field "contexts")) (en.resolveAll t (d.field "contexts")) :=
        related_resolveAll fun items hitems c hc =>
          ih items hitems c hc (h.mono fun e he => .nested hitems hc he)
      refine hnested.bind fun bindings bindings' hb => ?_
      exact related_resolveByRule hen hcalls hrule _ _ (h.overlay hb) (.self d) hb

end Engine

end WizardLogic
