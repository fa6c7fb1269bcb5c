import Mathlib
import WizardLogic.Proofs.Value.Entries
import WizardLogic.State.Views

/-!
# What scoped views share

A scoped view of a state starts with the local contexts of the state, with bindings of its own over
them. From then on the two have nothing in common but the other slices, and these they have in
common for good.

A view can be used in any way, and so can the views that are scoped from it in turn: their local
contexts are edited, and so are the slices that they share, loops are entered and left, and one turns
from one of them to another (`Views.Operation`). A loop is left in the same way when an error ends
it, so a run that fails inside of loops is the operations up to the error, with as many times leaving
a loop. Whatever is done, the local contexts of the state are the same afterwards, and the state and
all of its views show the same slices, namely those that come of the edits in the order in which they
were made, through whichever view (`Views.scoped_run`).

The argument is that all views look at one store, which is an invariant of each operation
(`Views.Scoped.perform`).
-/

namespace WizardLogic

namespace Views

/-! ### What is done with views -/

/-- One thing that is done with the views that were scoped from a state. -/
inductive Operation
  /-- An edit of the current view's own local contexts. -/
  | editLocals (f : Entries Holding → Entries Holding)
  /-- An edit of the slices, made through the current view. -/
  | edit (f : Slices → Slices)
  /-- Entering an iteration of a loop through the current view. -/
  | enter (f : Frame)
  /-- Leaving the iteration entered last, whether it is over or an error ends it. -/
  | leave
  /-- Scoping a further view from the current one. -/
  | scope (bindings : Entries Holding)
  /-- Turning to another view. -/
  | turnTo (i : ℕ)
  /-- Closing the current view. -/
  | unscope

namespace Operation

/-- The views after an operation. What cannot be done changes nothing, and the outermost view is
never turned to: it is the state itself. -/
def perform (vs : Views) : Operation → Views
  | editLocals f => vs.editLocals f
  | edit f => vs.edit f
  | enter f => vs.enter f
  | leave => vs.leave?.getD vs
  | scope bindings => vs.scope bindings
  | turnTo i => if i + 1 < vs.outer.length then (vs.turnTo? i).getD vs else vs
  | unscope => if 1 < vs.outer.length then vs.unscope?.getD vs else vs

/-- What an operation does to the slices, and to the number of loops that are running. -/
def share : Slices × ℕ → Operation → Slices × ℕ
  | (σ, n), edit f => (f σ, n)
  | (σ, n), enter f => (σ.enter f, n + 1)
  | (σ, n + 1), leave => (σ.leave, n)
  | p, _ => p

end Operation

/-- The views after operations, one after the other. -/
def run (ops : List Operation) (vs : Views) : Views := ops.foldl Operation.perform vs

/-- What operations make of slices. -/
def shared (ops : List Operation) (σ : Slices) : Slices := (ops.foldl Operation.share (σ, 0)).1

/-- Binding a local context is an edit of the local contexts. -/
theorem bind_eq_editLocals (vs : Views) (k : Key) (h : Holding) :
    vs.bind k h = vs.editLocals (Entries.insert k h) := rfl

/-! ### One store -/

/-- **Views that were scoped from a state**: they all look at one store, on which the loops that are
running were entered too, and the outermost of them has the local contexts of the state. -/
structure Scoped (locals : Entries Holding) (vs : Views) (p : Slices × ℕ) : Prop where
  stores : vs.stores = [p.1]
  views : ∀ v ∈ vs.all, v.store = 0
  entered : vs.entered = List.replicate p.2 0
  outermost : vs.outer.getLast? = some ⟨0, locals⟩

variable {locals : Entries Holding} {vs : Views} {p : Slices × ℕ}

/-- A state and a view scoped from it. -/
theorem scoped_ofState (s : State) (bindings : Entries Holding) :
    Scoped s.localContexts ((ofState s).scope bindings) (s.toSlices, 0) where
  stores := rfl
  views := by simp [all, scope, ofState]
  entered := rfl
  outermost := rfl

namespace Scoped

/-- Views on one store show its slices. -/
theorem toSlices_through (h : Scoped locals vs p) {v : View} (hv : v ∈ vs.all) :
    (vs.through v).toSlices = p.1 := by
  unfold through
  rw [h.views v hv, h.stores]
  rfl

/-- Of the views that are looked through, all that matters is the store and the outermost one. -/
theorem withViews (h : Scoped locals vs p) {current : View} {outer : List View}
    (hcurrent : current.store = 0) (houter : ∀ v ∈ outer, v.store = 0)
    (hlast : outer.getLast? = some ⟨0, locals⟩) :
    Scoped locals { vs with current, outer } p where
  stores := h.stores
  views := List.forall_mem_cons.mpr ⟨hcurrent, houter⟩
  entered := h.entered
  outermost := hlast

theorem edit (h : Scoped locals vs p) (f : Slices → Slices) :
    Scoped locals (vs.edit f) (f p.1, p.2) where
  stores := by
    change vs.stores.modify vs.current.store f = _
    rw [h.views vs.current List.mem_cons_self, h.stores]
    rfl
  views := h.views
  entered := h.entered
  outermost := h.outermost

theorem enter (h : Scoped locals vs p) (f : Frame) :
    Scoped locals (vs.enter f) (p.1.enter f, p.2 + 1) where
  stores := (h.edit (·.enter f)).stores
  views := h.views
  entered := by
    change vs.current.store :: vs.entered = _
    rw [h.views vs.current List.mem_cons_self, h.entered]
    rfl
  outermost := h.outermost

/-- A loop is left on the store that all views look at, through whichever of them it was entered. -/
theorem leave (h : Scoped locals vs p) :
    Scoped locals (vs.leave?.getD vs) (Operation.share p .leave) := by
  obtain ⟨σ, n⟩ := p
  unfold leave?
  -- As many loops are running as there are stores on which they were entered.
  cases n with
  | zero =>
    rw [h.entered]
    exact h
  | succ n =>
    rw [h.entered]
    refine ⟨?_, h.views, rfl, h.outermost⟩
    change vs.stores.modify 0 Slices.leave = _
    rw [h.stores]
    rfl

theorem scope (h : Scoped locals vs p) (bindings : Entries Holding) :
    Scoped locals (vs.scope bindings) p := by
  refine h.withViews (h.views vs.current List.mem_cons_self) h.views ?_
  rw [List.getLast?_cons, h.outermost]
  rfl

/-- Turning to a view that is not the outermost leaves that one where it is. -/
theorem turnTo (h : Scoped locals vs p) {i : ℕ} (hi : i + 1 < vs.outer.length) :
    Scoped locals ((vs.turnTo? i).getD vs) p := by
  have hview : vs.outer[i]? = some vs.outer[i] := List.getElem?_eq_getElem _
  rw [turnTo?, hview, Option.map_some, Option.getD_some]
  obtain ⟨hcurrent, houter⟩ := List.forall_mem_cons.mp h.views
  refine h.withViews (houter _ (List.getElem_mem _)) ?_ ?_
  · intro v hv
    rcases List.mem_or_eq_of_mem_set hv with hv | rfl
    · exact houter v hv
    · exact hcurrent
  -- The place that the two views change is not the last one.
  · rw [List.getLast?_eq_getElem?, List.length_set, List.getElem?_set_ne (by omega),
      ← List.getLast?_eq_getElem?]
    exact h.outermost

theorem unscope (h : Scoped locals vs p) (hlength : 1 < vs.outer.length) :
    Scoped locals (vs.unscope?.getD vs) p := by
  have houter := h.outermost
  have hviews := h.views
  unfold unscope? all at *
  cases hcases : vs.outer with
  | nil => simp [hcases] at hlength
  | cons v outer =>
    rw [hcases] at hlength houter hviews
    obtain ⟨-, hv, hrest⟩ := List.forall_mem_cons.mp hviews |>.imp_right List.forall_mem_cons.mp
    refine h.withViews hv hrest ?_
    -- The view that is looked through next had another one around it, so the last one stays.
    cases outer with
    | nil => simp at hlength
    | cons w outer => exact (List.getLast?_cons_cons ..).symm.trans houter

/-- **Every operation keeps the views on one store**, and the state its local contexts. -/
theorem perform (h : Scoped locals vs p) (op : Operation) :
    Scoped locals (op.perform vs) (op.share p) := by
  cases op with
  | editLocals f =>
    obtain ⟨hcurrent, houter⟩ := List.forall_mem_cons.mp h.views
    exact h.withViews hcurrent houter h.outermost
  | edit f => exact h.edit f
  | enter f => exact h.enter f
  | leave => exact h.leave
  | scope bindings => exact h.scope bindings
  | turnTo i =>
    by_cases hi : i + 1 < vs.outer.length
    · rw [Operation.perform, if_pos hi]
      exact h.turnTo hi
    · rw [Operation.perform, if_neg hi]
      exact h
  | unscope =>
    by_cases hlength : 1 < vs.outer.length
    · rw [Operation.perform, if_pos hlength]
      exact h.unscope hlength
    · rw [Operation.perform, if_neg hlength]
      exact h

/-- And so does every run of operations. -/
theorem run (h : Scoped locals vs p) (ops : List Operation) :
    Scoped locals (run ops vs) (ops.foldl Operation.share p) := by
  induction ops generalizing vs p with
  | nil => exact h
  | cons op ops ih => exact ih (h.perform op)

end Scoped

/-! ### What is shared and what is not -/

/-- **A scoped view shares all but its local contexts.** It starts with the local contexts of the
state with its bindings over them. Whatever is then done with it and with the views scoped from it
in turn, the local contexts of the state stay as they are, and the state and all open views show the
same slices: those of the state after the edits, through whichever view each of them was made. -/
theorem scoped_run (s : State) {bindings : Entries Holding} (hbindings : bindings.Distinct) :
    (∀ k, ((ofState s).scope bindings).state.localContexts.get? k =
      (bindings.get? k).or (s.localContexts.get? k)) ∧
    ∀ ops : List Operation,
      (∃ v, (run ops ((ofState s).scope bindings)).outer.getLast? = some v ∧
        v.localContexts = s.localContexts) ∧
      ∀ v ∈ (run ops ((ofState s).scope bindings)).all,
        ((run ops ((ofState s).scope bindings)).through v).toSlices = shared ops s.toSlices := by
  refine ⟨Entries.get?_merge hbindings s.localContexts, fun ops => ?_⟩
  have hrun := (scoped_ofState s bindings).run ops
  exact ⟨⟨_, hrun.outermost, rfl⟩, fun v hv => hrun.toSlices_through hv⟩

/-- A state with a local context. -/
def stateWithLocal : State := { localContexts := [(.str "a", .value (.int 1))] }

/-- Bindings of which one hides that local context. -/
def hidingBindings : Entries Holding := [(.str "a", .value (.int 10)), (.str "b", .value (.int 2))]

/-- A local context is bound in the view, and from a view within it a loop is entered. An error ends
the loop when the outer one of the two views is looked through again and has opened a group. -/
def failingLoop : List Operation :=
  [.editLocals (Entries.insert (.str "a") (.value (.int 11))), .scope [],
    .enter ⟨.str "rows", .int 0, .str "x", [.str "x"]⟩, .turnTo 0,
    .edit fun σ => { σ with groupIndices := .int 7 :: σ.groupIndices }, .leave]

/-- The state keeps its local context, and it and both views show the group and no loop. -/
theorem scoped_run_failingLoop :
    hidingBindings.Distinct ∧
      ((ofState stateWithLocal).scope hidingBindings).state.localContexts.get? (.str "a") =
        some (.value (.int 10)) ∧
      (run failingLoop ((ofState stateWithLocal).scope hidingBindings)).all.length = 3 ∧
      (∃ v, (run failingLoop ((ofState stateWithLocal).scope hidingBindings)).outer.getLast? =
        some v ∧ v.localContexts = [(.str "a", .value (.int 1))]) ∧
      ∀ v ∈ (run failingLoop ((ofState stateWithLocal).scope hidingBindings)).all,
        ((run failingLoop ((ofState stateWithLocal).scope hidingBindings)).through v).toSlices =
          { groupIndices := [.int 7] } := by
  have hdistinct : hidingBindings.Distinct :=
    List.pairwise_cons.mpr ⟨by decide, List.pairwise_singleton _ _⟩
  obtain ⟨hstart, hrun⟩ := scoped_run stateWithLocal hdistinct
  obtain ⟨hlocals, hslices⟩ := hrun failingLoop
  exact ⟨hdistinct, hstart (.str "a"), rfl, hlocals, hslices⟩

end Views

end WizardLogic
