import WizardLogic.Query
import WizardLogic.Remote.Exchange

/-!
# Calling remote actions

A call builds the request, sends it and reduces the answer (`RemoteAction.run`). The answer's text
is read as JSON where it is JSON. It is reduced by the expression of the remote action: a template
sees the contexts of the call with the answer under `data` and `result`, a query sees the answer,
its status and headers and the contexts side by side. Any status from 200 to 299 is a success; the
answer is reduced in any case.
-/

namespace WizardLogic

/-- The result of a call. -/
structure RemoteResult where
  /-- Whether the status is one of success. -/
  ok : Bool
  status : Int
  data : Value
  /-- The data, reduced. -/
  result : Value

/-- A result as a value. -/
def RemoteResult.toValue (r : RemoteResult) : Value :=
  .obj [(.str "ok", .bool r.ok), (.str "status", .int r.status), (.str "data", r.data),
    (.str "result", r.result)]

namespace Response

/-- Whether the status is one of success. -/
def ok (r : Response) : Bool := 200 ≤ r.status && r.status < 300

/-- The answer's data: JSON where it is JSON, else the text. -/
def data (r : Response) : Value := Json.readOrText r.text

/-- The value of a header that may be given several times. -/
def joinHeader (name : String) (value : String) (es : Entries Value) : Entries Value :=
  match Entries.get? (.str name) es with
  | some (.str earlier) => Entries.insert (.str name) (.str (earlier ++ ", " ++ value)) es
  | _ => Entries.insert (.str name) (.str value) es

/-- The headers under names in lower case, with the length of a text that is not empty unless they
give one. -/
def envelopeHeaders (r : Response) : Entries Value :=
  let given := r.headers.foldl
    (fun es (k, v) => joinHeader (String.ofList (Request.headerName k)) v es) []
  if r.text.isEmpty || Entries.contains (.str "content-length") given then given
  else given ++ [(.str "content-length", .str (toString r.text.utf8ByteSize))]

end Response

namespace RemoteAction

/-- What a query that reduces an answer looks at. -/
def envelope (r : Response) (contexts : Entries Value) : Value :=
  .obj [(.str "data", r.data), (.str "result", r.data), (.str "status", .int r.status),
    (.str "headers", .obj r.envelopeHeaders), (.str "context", .obj contexts)]

/-- Reduces an answer. -/
def reduce (a : RemoteAction) (contexts : Entries Value) (r : Response) : Except Failure Value :=
  match a.expression with
  | none => .ok r.data
  | some expression =>
    if (Text.strip expression.toList).isEmpty then .ok r.data
    else match a.expressionKind with
      | .template =>
        let data := Entries.merge contexts [(.str "data", r.data), (.str "result", r.data)]
        (Template.render (.str expression) data).map Value.str
      | .query => Query.evaluate (.str expression) (envelope r contexts) contexts

/-- What comes of a response. -/
def outcome (a : RemoteAction) (contexts : Entries Value) (r : Response) : Effect RemoteResult := do
  if !r.ok then
    Effect.note ⟨.warning, .remote, s!"Remote action '{a.name}' returned status {r.status}"⟩
  let result ← Effect.ofExcept (a.reduce contexts r)
  return ⟨r.ok, r.status, r.data, result⟩

/-- **Calls a remote action** in contexts. -/
def run (userAgent : String) (a : RemoteAction) (contexts : Entries Value) :
    Effect RemoteResult := do
  let request ← Effect.ofExcept (Request.build userAgent a contexts)
  Effect.note ⟨.info, .remote, s!"Remote action '{a.name}': {request.method.name} {request.url}"⟩
  match ← Effect.send request with
  | .lost reason => Effect.fail (.transport a.name reason)
  | .response r => a.outcome contexts r

end RemoteAction

end WizardLogic
