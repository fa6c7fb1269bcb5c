import WizardLogic.State.Wire

/-!
# Views of a state

A scoped view has local contexts of its own and shares all other slices with the state it was made
from: an edit of a shared slice through one of them is seen through all. `Views` keeps the views
that are open, the innermost in front, over the slices that they share. A view stays open while one
of the others is looked through (`Views.turnTo?`), and the two change places. A state that is read
back from its wire form starts to share with nobody, so there can be several such stores of slices.

A loop that was entered is left on the store where it was entered, whichever view is current by
then.
-/

namespace WizardLogic

/-- One view: the store it looks at and its own local contexts. -/
structure View where
  store : Nat
  localContexts : Entries Holding
deriving Inhabited

/-- The open views. -/
structure Views where
  /-- The stores, in the order in which they came to be. -/
  stores : List Slices
  /-- The view that is looked through. -/
  current : View
  /-- The views around it, nearest first. -/
  outer : List View
  /-- The stores on which the loops that are still running were entered, last entered first. -/
  entered : List Nat
deriving Inhabited

namespace Views

/-- A single view of a state. -/
def ofState (s : State) : Views := ⟨[s.toSlices], ⟨0, s.localContexts⟩, [], []⟩

/-- The state that a view shows. -/
def through (vs : Views) (v : View) : State :=
  { (vs.stores[v.store]?).getD {} with localContexts := v.localContexts }

/-- The state that the current view shows. -/
def state (vs : Views) : State := vs.through vs.current

/-- All open views. -/
def all (vs : Views) : List View := vs.current :: vs.outer

/-- Edits the slices that the current view shares. -/
def edit (vs : Views) (f : Slices → Slices) : Views :=
  { vs with stores := vs.stores.modify vs.current.store f }

/-- Edits the local contexts of the current view. -/
def editLocals (vs : Views) (f : Entries Holding → Entries Holding) : Views :=
  { vs with current := { vs.current with localContexts := f vs.current.localContexts } }

/-- Binds a local context of the current view. -/
def bind (vs : Views) (k : Key) (h : Holding) : Views :=
  { vs with current := { vs.current with localContexts := vs.current.localContexts.insert k h } }

/-- Opens a scoped view. -/
def scope (vs : Views) (bindings : Entries Holding) : Views :=
  { vs with
    current := { vs.current with localContexts := vs.current.localContexts.merge bindings }
    outer := vs.current :: vs.outer }

/-- Closes the current view; none when it is the only one. -/
def unscope? (vs : Views) : Option Views :=
  match vs.outer with
  | [] => none
  | v :: outer => some { vs with current := v, outer }

/-- Looks through another open view, which changes places with the current one; none when there are
not so many views around the current one. -/
def turnTo? (vs : Views) (i : Nat) : Option Views :=
  (vs.outer[i]?).map fun v => { vs with current := v, outer := vs.outer.set i vs.current }

/-- Enters an iteration of a loop. -/
def enter (vs : Views) (f : Frame) : Views :=
  { vs.edit (·.enter f) with entered := vs.current.store :: vs.entered }

/-- Leaves the iteration entered last; none when none is running. -/
def leave? (vs : Views) : Option Views :=
  match vs.entered with
  | [] => none
  | n :: entered => some { vs with stores := vs.stores.modify n Slices.leave, entered }

/-- Replaces the current view by one that is read back from its wire form. -/
def reload (vs : Views) : Except Fault Views := do
  let s ← State.read vs.state.toValue
  return { vs with
    stores := vs.stores ++ [s.toSlices]
    current := ⟨vs.stores.length, s.localContexts⟩ }

end Views

end WizardLogic
