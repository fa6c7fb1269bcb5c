import Mathlib
import WizardLogic.Proofs.Effect.Related
import WizardLogic.Proofs.Run.Block
import WizardLogic.Proofs.Value.Entries

/-!
# The scope of a context

Resolving a context goes by its rule, in a state that is overlaid with what the contexts nested in
it come to (`Engine.resolve_of_rule`). These are resolved one after the other, and each of them in
the state in which the whole context is resolved (`Engine.resolveAll_list`): what one of them is
bound to is seen neither by those after it nor by those nested in them. So the bindings of a level
are seen by the rule of that level alone.

The contexts nested in a context are smaller than it, which gives the induction along nested
contexts (`Value.context_induction`) that statements about resolution need.
-/

namespace WizardLogic

/-! ### Nested contexts -/

/-- **The induction along nested contexts**: a statement about contexts may be shown of each from
the contexts nested in it. -/
theorem Value.context_induction {P : Value → Prop}
    (step : ∀ d, (∀ items, d.field "contexts" = .list items → ∀ c ∈ items, P c) → P d)
    (d : Value) : P d := by
  induction hn : sizeOf d using Nat.strong_induction_on generalizing d with
  | _ n ih =>
    subst hn
    refine step d fun items hitems c hc => ih _ ?_ c rfl
    cases d with
    | obj es =>
      have hfield := Value.sizeOf_field_lt es "contexts"
      have hmember := List.sizeOf_lt_of_mem hc
      rw [hitems, Value.list.sizeOf_spec] at hfield
      omega
    -- What is no object has no nested contexts.
    | _ => cases hitems

/-- A context stands in a context if it is that context or stands in one of those nested in it. -/
inductive Value.HasContext : Value → Value → Prop
  | self (d : Value) : HasContext d d
  | nested {d c e : Value} {items : List Value} : d.field "contexts" = .list items → c ∈ items →
      HasContext c e → HasContext d e

namespace Engine

variable (en : Engine) (s : State)

/-! ### The rule of a context -/

/-- The rule of a context, or what is wrong where it has none. -/
def contextRule (d : Value) : Except Error ContextRule :=
  match d with
  | .obj es =>
    match (Value.obj es).field "type" with
    | .str type =>
      match en.registry.contexts.lookup type with
      | some rule => .ok rule
      | none => .error (.contextType (.str type))
    | type => .error (.contextType type)
  | d => .error (.contextKind d.kindName)

/-- The services for the rule of a context. -/
def contextServices : Value → Services
  | .obj es => en.services es
  | _ => en.services []

variable {en}

/-- Resolving a context goes by its rule and fails where it has none. -/
theorem resolve_eq (d : Value) :
    en.resolve s d = match en.contextRule d with
      | .ok rule => do
        let bindings ← en.resolveAll s (d.field "contexts")
        en.resolveByRule (en.contextServices d) (s.overlay bindings) d bindings rule
      | .error e => Effect.fail e := by
  cases d with
  | obj es =>
    unfold resolve contextRule
    dsimp only
    cases (Value.obj es).field "type" with
    | str type =>
      dsimp only
      cases en.registry.contexts.lookup type <;> rfl
    | _ => rfl
  | _ =>
    unfold resolve contextRule
    rfl

/-- **A context is resolved by its rule**, with the contexts nested in it as bindings. -/
theorem resolve_of_rule {d : Value} {rule : ContextRule} (h : en.contextRule d = .ok rule) :
    en.resolve s d = en.resolveAll s (d.field "contexts") >>= fun bindings =>
      en.resolveByRule (en.contextServices d) (s.overlay bindings) d bindings rule := by
  rw [resolve_eq, h]

/-- A context with a rule has the type that the rule is registered for. -/
theorem exists_type_of_contextRule {d : Value} {rule : ContextRule}
    (h : en.contextRule d = .ok rule) :
    ∃ type, d.field "type" = .str type ∧ (type, rule) ∈ en.registry.contexts := by
  unfold contextRule at h
  cases d with
  | obj es =>
    cases htype : (Value.obj es).field "type" with
    | str type =>
      simp only [htype] at h
      cases hlookup : en.registry.contexts.lookup type with
      | none => simp [hlookup] at h
      | some rule' =>
        rw [hlookup] at h
        cases h
        exact ⟨type, rfl, Rules.mem_of_lookup hlookup⟩
    | _ => simp [htype] at h
  | _ => cases h

variable (en) in
/-- What a context in a list comes to, with the key under which it is written. -/
def resolveKeyed (d : Value) : Effect (Key × Holding) :=
  if !(d.field "key").isTrue then Effect.fail .noContextKey
  else do
    let h ← en.resolve s d
    match (d.field "key").toKey? with
    | none => throw (Failure.fault .wrongKind)
    | some k => return (k, h)

theorem resolveEach_eq (items : List Value) (found : Entries Holding) :
    en.resolveEach s items found =
      (fun more => Entries.merge found more) <$> items.mapM (en.resolveKeyed s) := by
  induction items generalizing found with
  | nil =>
    rw [resolveEach, List.mapM_nil, map_pure]
    rfl
  | cons d rest ih =>
    rw [resolveEach, List.mapM_cons, map_bind, resolveKeyed]
    split
    · rfl
    · rw [bind_assoc]
      refine bind_congr fun h => ?_
      cases (d.field "key").toKey? with
      | none => rfl
      | some k =>
        dsimp only
        rw [ih, pure_bind, map_bind]
        simp only [map_pure]
        rfl

/-- **Contexts in a list are resolved one by one**, each in the same state, and what they come to is
written in their order. -/
theorem resolveAll_list (items : List Value) :
    en.resolveAll s (.list items) = Entries.ofList <$> items.mapM (en.resolveKeyed s) := by
  rw [resolveAll, resolveEach_eq]
  rfl

/-- What is no list lists no contexts. -/
theorem resolveAll_of_ne_list {v : Value} (h : ∀ items, v ≠ .list items) :
    en.resolveAll s v =
      if !v.isTrue then pure []
      else if v.elements?.isSome then Effect.fail .noContextKey
      else throw (Failure.fault .wrongKind) := by
  cases v with
  | list items => exact absurd rfl (h items)
  | _ =>
    rw [resolveAll]
    exact h

end Engine

end WizardLogic
