import Mathlib
import WizardLogic.Proofs.Context.Agreement
import WizardLogic.Proofs.Run.Loops
import WizardLogic.State.Wire

/-!
# What local contexts come to

A context that addresses a local context by its name, without a query, comes to what the name holds,
and so does the wire form of the state: the state *yields* it (`Engine.Yields`). What a name holds
may be a slice instead of a value. Only few contexts come to a slice (`Engine.always_resolve`): those
that look at a slice as a whole, and those that address a local context which holds one.
-/

namespace WizardLogic

/-! ### What effects come to -/

namespace Effect

variable {α β : Type} {P : α → Prop} {Q : β → Prop}

/-- Whatever an effect comes to has a property. -/
def Always (P : α → Prop) (e : Effect α) : Prop := ∀ x a, (e.runFrom x).1 = .ok a → P a

namespace Always

theorem pure {a : α} (h : P a) : Always P (Pure.pure a : Effect α) :=
  fun _ _ ha => Except.ok.inj ha ▸ h

theorem fail (e : Error) : Always P (Effect.fail e : Effect α) := fun _ _ h => nomatch h

theorem bind {e : Effect α} {k : α → Effect β} (hk : ∀ a, Always Q (k a)) :
    Always Q (e >>= k) := by
  intro x b hb
  rw [runFrom_bind] at hb
  rcases he : e.runFrom x with ⟨f | a, y⟩
  · rw [he] at hb
    cases hb
  · rw [he] at hb
    exact hk a y b hb

end Always

end Effect

/-! ### Contexts that come to a slice -/

namespace Engine

variable {en : Engine} {s : State} {d : Value} {bindings : Entries Holding}

variable (hen : en.registry = .builtIn)
include hen

end Engine

/-! ### What is found under a name -/

namespace Engine

/-- **A state yields a value for a name**: the wire form shows it under the name, and contexts that
address the name without a query come to it, unless contexts nested in them hide the name. -/
structure Yields (en : Engine) (s : State) (k : Key) (v : Value) : Prop where
  shown : ∃ es, s.toValue.field "localContexts" = .obj es ∧ Entries.get? k es = some v
  resolved : ∀ (d : Value) (x x' : Exchange) (bindings : Entries Holding), ∀ type ∈ localTypes,
    d.field "type" = .str type → d.field "key" = .ofKey k → (d.field "expression").isTrue = false →
    (en.resolveAll s (d.field "contexts")).runFrom x = (.ok bindings, x') →
    bindings.get? k = none → (en.resolveValue s d).runFrom x = (.ok v, x')

variable {en : Engine} (hen : en.registry = .builtIn)
include hen

end Engine

end WizardLogic
