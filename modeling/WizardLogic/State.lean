import WizardLogic.Value

/-!
# The state of a session

What a session remembers, in six slices: the field values of the step in progress, the values of
completed steps by step name, property bags of components, local contexts, the loops that are
running and the indices of the repeatable groups that are open. The last two are stacks, kept
innermost first.

A local context usually holds a value. It may also hold a whole slice: then it shows that slice as
it is whenever it is looked at (`Holding`).

Resolving a context with bindings of its own happens in a *scoped* state (`State.overlay`), which
differs from the state in its local contexts only.
-/

namespace WizardLogic

/-- One iteration of a running loop. -/
structure Frame where
  /-- The name by which contexts address the loop. -/
  name : Value
  index : Value
  item : Value
  array : List Value
deriving Inhabited

/-- The slices that a context can hand out whole. -/
inductive SharedSlice
  | currentStepValues
  | allStepValues
deriving DecidableEq, Repr

/-- What a name is bound to: a value, or a slice of the state as it is when it is looked at. -/
inductive Holding
  | value (v : Value)
  | slice (s : SharedSlice)
deriving Inhabited

instance : Coe Value Holding := ⟨Holding.value⟩

/-- The slices that a state and its scoped views have in common. -/
structure Slices where
  currentStepValues : Entries Value := []
  allStepValues : Entries Value := []
  componentStates : Entries Value := []
  /-- The running loops, innermost first. -/
  frames : List Frame := []
  /-- The indices of open groups, innermost first. -/
  groupIndices : List Value := []
deriving Inhabited

/-- The state of a session. -/
structure State extends Slices where
  localContexts : Entries Holding := []
deriving Inhabited

/-- A frame as a value. -/
def Frame.toValue (f : Frame) : Value :=
  .obj [(.str "name", f.name), (.str "index", f.index), (.str "item", f.item),
    (.str "array", .list f.array)]

namespace Slices

/-- The contents of a slice. -/
def slice (s : Slices) : SharedSlice → Entries Value
  | .currentStepValues => s.currentStepValues
  | .allStepValues => s.allStepValues

/-- The value that a holding shows. -/
def look (s : Slices) : Holding → Value
  | .value v => v
  | .slice n => .obj (s.slice n)

/-- The values that bindings show. -/
def lookAll (s : Slices) (bindings : Entries Holding) : Entries Value :=
  bindings.map fun (k, h) => (k, s.look h)

/-- The innermost running loop with a name. -/
def findFrame? (s : Slices) (name : Value) : Option Frame :=
  s.frames.find? fun f => f.name.looseEq name

/-- The index of the innermost open group. -/
def groupIndex? (s : Slices) : Option Value := s.groupIndices.head?

/-- The slices inside one more iteration of a loop. -/
def enter (s : Slices) (f : Frame) : Slices := { s with frames := f :: s.frames }

/-- The slices after the innermost iteration. -/
def leave (s : Slices) : Slices := { s with frames := s.frames.tail }

end Slices

/-- An edit that the owner of a state makes between two evaluations: entries written into an
object slice, or a new stack of group indices, outermost first. -/
inductive Edit
  | currentStepValues (entries : Entries Value)
  | allStepValues (entries : Entries Value)
  | componentStates (entries : Entries Value)
  | localContexts (entries : Entries Value)
  | groupIndices (indices : List Value)

namespace State

/-- The state after an edit by its owner. -/
def edited (s : State) : Edit → State
  | .currentStepValues es => { s with currentStepValues := s.currentStepValues.merge es }
  | .allStepValues es => { s with allStepValues := s.allStepValues.merge es }
  | .componentStates es => { s with componentStates := s.componentStates.merge es }
  | .localContexts es =>
    { s with localContexts := s.localContexts.merge (es.map fun (k, v) => (k, .value v)) }
  | .groupIndices indices => { s with groupIndices := indices.reverse }

/-- The state with further local contexts, which hide those of the same name. -/
def overlay (s : State) (bindings : Entries Holding) : State :=
  { s with localContexts := s.localContexts.merge bindings }

/-- The state with a local context bound. -/
def bind (s : State) (k : Key) (h : Holding) : State :=
  { s with localContexts := s.localContexts.insert k h }

end State

end WizardLogic
