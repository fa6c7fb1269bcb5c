import WizardLogic.Log
import WizardLogic.Remote.Request

/-!
# The exchange with the outside

An evaluation touches the world outside in two ways: it sends requests, to which replies come back,
and it notes log records. An `Exchange` holds the replies that are going to come, in order, the
requests sent so far and the records noted so far. When all replies but one have come, the last one
comes again and again.

An `Effect` is an evaluation that may touch the outside and may fail. What it did stays done when
it fails.
-/

namespace WizardLogic

/-- An answer to a request. -/
structure Response where
  status : Int
  text : String
  headers : Entries String

/-- What comes back for a request. -/
inductive Reply
  | response (r : Response)
  /-- Nothing, for a reason. -/
  | lost (reason : String)

/-- The replies that are going to come: the next one and those after it. -/
structure Script where
  next : Reply
  later : List Reply

/-- The replies that are going to come when the next one has come. -/
def Script.rest (s : Script) : Script :=
  match s.later with
  | [] => s
  | r :: rs => ⟨r, rs⟩

/-- The world outside an evaluation. -/
structure Exchange where
  script : Script
  requests : List Request := []
  log : List Log.Record := []

/-- An evaluation that may touch the outside and may fail. -/
abbrev Effect := ExceptT Failure (StateM Exchange)

namespace Exchange

/-- The exchange with one more record noted. -/
def noted (x : Exchange) (r : Log.Record) : Exchange := { x with log := x.log ++ [r] }

/-- The exchange with one more request sent. -/
def sent (x : Exchange) (r : Request) : Exchange :=
  { x with script := x.script.rest, requests := x.requests ++ [r] }

/-- Notes a record. -/
def note (r : Log.Record) : StateM Exchange Unit := modify (·.noted r)

/-- Sends a request and takes the reply. -/
def send (r : Request) : StateM Exchange Reply := do
  let x ← get
  set (x.sent r)
  return x.script.next

end Exchange

namespace Effect

variable {α : Type}

/-- An evaluation without effects. -/
def ofExcept (r : Except Failure α) : Effect α := ExceptT.mk (pure r)

/-- An evaluation that ends in a fault or succeeds. -/
def ofFault (r : Except Fault α) : Effect α := ofExcept (r.mapError Failure.fault)

/-- An evaluation that fails with an error. -/
def fail (e : Error) : Effect α := throw (Failure.error e)

/-- Notes a record. -/
def note (r : Log.Record) : Effect Unit := ExceptT.lift (Exchange.note r)

/-- Sends a request and takes the reply. -/
def send (r : Request) : Effect Reply := ExceptT.lift (Exchange.send r)

end Effect

end WizardLogic
