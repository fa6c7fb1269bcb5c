import WizardLogic.Remote.Exchange
import WizardLogic.State

/-!
# Runs

Contexts and conditions only look at the state: resolving one is an `Effect` that is given the
state. Actions and blocks may also change it: a `Run` goes on in a `World`, which is the state
together with the exchange with the outside. When a run fails, what it did before stays done.

Inside an iteration of a loop (`Run.within`) the iteration is on the state's stack, and it is off
the stack afterwards, however the iteration ends.
-/

namespace WizardLogic

/-- The state and the world outside. -/
structure World where
  state : State
  exchange : Exchange

/-- An evaluation that may change the state, touch the outside and fail. -/
abbrev Run := ExceptT Failure (StateM World)

/-- What came of an action. -/
structure ActionResult where
  type : String
  payload : Value := .null
  error : Option String := none
deriving Inhabited

namespace ActionResult

/-- Whether the action succeeded. -/
def ok (r : ActionResult) : Bool := r.error.isNone

/-- A result as a value: payload and error only when there are any. -/
def toValue (r : ActionResult) : Value :=
  .obj ((.str "type", .str r.type) ::
    ((if r.payload.isNull then [] else [(.str "payload", r.payload)]) ++
      (match r.error with
        | none => []
        | some e => [(.str "error", .str e)])))

end ActionResult

namespace Run

variable {α : Type}

/-- Looks at the state. -/
def look (f : State → Effect α) : Run α :=
  ExceptT.mk fun w =>
    let (r, x) := (f w.state).run.run w.exchange
    (r, { w with exchange := x })

/-- Changes the state. -/
def change (f : State → State) : Run Unit :=
  ExceptT.mk fun w => (.ok (), { w with state := f w.state })

/-- Notes a record. -/
def note (r : Log.Record) : StateM World Unit :=
  modify fun w => { w with exchange := w.exchange.noted r }

/-- Fails with an error. -/
def fail (e : Error) : Run α := throw (Failure.error e)

/-- **Runs the body of an iteration of a loop.** -/
def within (f : Frame) (body : Run α) : Run α :=
  ExceptT.mk fun w =>
    let (r, w') := body.run.run
      { w with state := { w.state with toSlices := w.state.enter f } }
    (r, { w' with state := { w'.state with toSlices := w'.state.leave } })

end Run

end WizardLogic
