import WizardLogic.Document.Basic
import WizardLogic.Json.Reader
import WizardLogic.Template
import WizardLogic.Text.Case

/-!
# Requests of remote actions

A request is built from a remote action by rendering each of its parts as a template over the
contexts of the call (`Request.build`). Headers, parameters and forms are written in the document
as JSON objects; their values are sent as text (`wireText`), strings as they are and everything
else as JSON. Parameters that are null are left out.

A body is sent only with the methods that carry one. A JSON body is read and written again, so what
is sent is ASCII JSON whatever the template produced; it is announced by a content type unless the
headers already name one.
-/

namespace WizardLogic

/-- What a request carries. -/
inductive Body
  | nothing
  | content (text : String)
  /-- A form, encoded like the parameters. -/
  | form (fields : Entries String)
  /-- A form in parts. -/
  | parts (fields : Entries String)

/-- A request, ready to be sent. -/
structure Request where
  method : HttpMethod
  url : String
  headers : Entries String
  /-- The parameters; a request without any has no parameters at all. -/
  params : Entries String
  body : Body

namespace Request

/-- The text that is sent for a value. -/
def wireText : Value → String
  | .bool b => String.ofList (Json.boolChars b)
  | .list items => Json.print .asciiLine (.list items)
  | .obj es => Json.print .asciiLine (.obj es)
  | v => v.text

/-- The entries with their values as they are sent. -/
def wireTexts (es : Entries Value) : Entries String := es.map fun (k, v) => (k, wireText v)

/-- The entries of the JSON object that a part of a request is rendered to. -/
def objectOf (part text : String) : Except Failure (Entries Value) :=
  match Json.read? text with
  | none => .error (Error.requestPartText part)
  | some (.obj es) => .ok es
  | some _ => .error (Error.requestPartObject part)

/-- The header that says who asks. -/
def userAgentHeader : Key := .str "User-Agent"

/-- The header that says what the body is. -/
def contentTypeHeader : Key := .str "Content-Type"

/-- A key as the name of a header, in lower case. -/
def headerName : Key → List Char
  | .str s => Text.lower s.toList
  | _ => []

/-- Whether headers name a content type, in any letter case. -/
def namesContentType (headers : Entries String) : Bool :=
  headers.any fun (k, _) => headerName k = "content-type".toList

/-- The headers that a remote action declares, over the one that says who asks. -/
def buildHeaders (userAgent : String) (a : RemoteAction) (contexts : Entries Value) :
    Except Failure (Entries String) := do
  let base := [(userAgentHeader, userAgent)]
  match a.headers with
  | none => return base
  | some template =>
    if template.isEmpty then return base
    else
      let es ← objectOf "headers" (← Template.render (.str template) contexts)
      return Entries.merge base (wireTexts es)

/-- The parameters that a remote action declares, without those that are null. -/
def buildParams (a : RemoteAction) (contexts : Entries Value) :
    Except Failure (Entries String) := do
  match a.params with
  | none => return []
  | some template =>
    if template.isEmpty then return []
    else
      let es ← objectOf "params" (← Template.render (.str template) contexts)
      return wireTexts (es.filter fun (_, v) => !v.isNull)

/-- The body for a rendered text, and the headers with the content type that it needs. -/
def buildBody (kind : ContentType) (headers : Entries String) (text : String) :
    Except Failure (Entries String × Body) :=
  match kind with
  | .json =>
    match Json.read? text with
    | none => .error Error.requestBody
    | some v =>
      let headers := if namesContentType headers then headers
        else Entries.insert contentTypeHeader "application/json" headers
      .ok (headers, .content (Json.print .asciiLine v))
  | .text => .ok (headers, .content text)
  | .urlEncoding => (objectOf "body" text).map fun es => (headers, .form (wireTexts es))
  | .formData => (objectOf "body" text).map fun es => (headers, .parts (wireTexts es))

/-- **The request of a remote action** in the contexts of a call. -/
def build (userAgent : String) (a : RemoteAction) (contexts : Entries Value) :
    Except Failure Request := do
  let url ← Template.render (.str a.url) contexts
  let headers ← buildHeaders userAgent a contexts
  let params ← buildParams a contexts
  match a.body with
  | none => return ⟨a.method, url, headers, params, .nothing⟩
  | some template =>
    if a.method.carriesBody then
      let text ← Template.render (.str template) contexts
      let (headers, body) ← buildBody a.contentType headers text
      return ⟨a.method, url, headers, params, body⟩
    else return ⟨a.method, url, headers, params, .nothing⟩

end Request

end WizardLogic
