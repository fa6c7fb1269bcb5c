import WizardLogic.Siblings
import WizardLogic.State

/-!
# The wire form of a state

A state is stored between requests as an object with one field per slice, stacks outermost first
(`State.toValue`). Reading it back (`State.read`) is lenient: a slice that is absent, null or
otherwise counts as false is empty, an object-like slice may be given as a list of pairs, and a list
as anything that can be gone through. Only a frame has to have a name.
-/

namespace WizardLogic

/-- The wire form of a state. -/
def State.toValue (s : State) : Value :=
  .obj [(.str "currentStepValues", .obj s.currentStepValues),
    (.str "allStepValues", .obj s.allStepValues),
    (.str "componentStates", .obj s.componentStates),
    (.str "localContexts", .obj (s.lookAll s.localContexts)),
    (.str "forEachStacks", .list (s.frames.reverse.map Frame.toValue)),
    (.str "groupIndexStack", .list s.groupIndices.reverse)]

namespace Value

/-- The entry that an element of a list of pairs stands for. -/
def pair? (v : Value) : Except Fault (Key × Value) :=
  match v.elements? with
  | none => .error .wrongKind
  | some [k, w] =>
    match k.toKey? with
    | some k => .ok (k, w)
    | none => .error .wrongKind
  | some _ => .error .badValue

/-- The entries that a slice is given by. -/
def sliceEntries (v : Value) : Except Fault (Entries Value) :=
  if !v.isTrue then .ok []
  else match v with
    | obj es => .ok es
    | _ => match v.elements? with
      | none => .error .wrongKind
      | some items => (items.mapM pair?).map Entries.ofList

/-- The items that a slice is given by. -/
def sliceItems (v : Value) : Except Fault (List Value) :=
  if !v.isTrue then .ok []
  else match v.elements? with
    | none => .error .wrongKind
    | some items => .ok items

end Value

/-- The frame that a value describes. -/
def Frame.read (v : Value) : Except Fault Frame :=
  match v with
  | .obj es =>
    match Entries.get? (.str "name") es with
    | none => .error .noKey
    | some name => do
      let array ← (v.field "array").sliceItems
      return ⟨name, (Entries.get? (.str "index") es).getD (.int 0), v.field "item", array⟩
  | _ => .error .wrongKind

/-- **The state that a wire value describes.** -/
def State.read (v : Value) : Except Fault State :=
  if v.isTrue && !v.isObject then .error .noMember
  else do
    let frames ← (← (v.field "forEachStacks").sliceItems).mapM Frame.read
    let currentStepValues ← (v.field "currentStepValues").sliceEntries
    let allStepValues ← (v.field "allStepValues").sliceEntries
    let componentStates ← (v.field "componentStates").sliceEntries
    let localContexts ← (v.field "localContexts").sliceEntries
    let groupIndices ← (v.field "groupIndexStack").sliceItems
    return {
      currentStepValues, allStepValues, componentStates
      frames := frames.reverse
      groupIndices := groupIndices.reverse
      localContexts := localContexts.map fun (k, w) => (k, Holding.value w) }

/-- Whether two states show the same values. -/
def State.same (s t : State) : Bool := s.toValue.looseEq t.toValue

end WizardLogic
