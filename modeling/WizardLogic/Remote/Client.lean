import WizardLogic.Settings

/-!
# Clients

Requests are sent over a connection. A client that is not given a connection opens its own, with
the time limit of the settings, and closes it when the client is closed; a connection that it was
given stays open, since somebody else owns it.
-/

namespace WizardLogic

/-- A connection to the outside. -/
structure Connection where
  /-- The seconds a request may take; null means any time. -/
  timeLimit : Value := .null
  isClosed : Bool := false

/-- A sender of requests. -/
structure Client where
  userAgent : String
  connection : Connection
  /-- Whether the client opened the connection itself. -/
  ownsConnection : Bool

namespace Client

/-- A client under settings, over a connection if one is given. -/
def create (settings : Entries Value) (given : Option Connection) : Client :=
  let userAgent := Settings.userAgent settings
  match given with
  | some connection => ⟨userAgent, connection, false⟩
  | none => ⟨userAgent, ⟨(settings.get? (.str "remote_timeout")).getD .null, false⟩, true⟩

/-- The client after it is closed. -/
def close (c : Client) : Client :=
  if c.ownsConnection then { c with connection := { c.connection with isClosed := true } } else c

/-- The client after one who uses it is closed, and who closes it only if it is its own. -/
def release (c : Client) (isOwn : Bool) : Client := if isOwn then c.close else c

end Client

end WizardLogic
