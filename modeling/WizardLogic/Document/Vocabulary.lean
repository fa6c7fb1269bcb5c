/-!
# The words of a document

Four closed vocabularies that documents draw on: the events of the user interface, the methods of
a remote action, the encodings of its body and the languages in which its answer can be reduced.
Each word has one spelling (`name`), and `ofName?` reads exactly the spellings.
-/

namespace WizardLogic

/-- The events of the user interface that can run blocks. -/
inductive EventType
  | onClick
  | onChange
  | onMounted
  | onBlur
  | onFocus
  | restrictionFailed
  | onWindowBeforeUnload
deriving DecidableEq, Repr, Inhabited

namespace EventType

/-- All events. -/
def all : List EventType :=
  [onClick, onChange, onMounted, onBlur, onFocus, restrictionFailed, onWindowBeforeUnload]

/-- How an event is spelled. -/
def name : EventType → String
  | onClick => "ON_CLICK"
  | onChange => "ON_CHANGE"
  | onMounted => "ON_MOUNTED"
  | onBlur => "ON_BLUR"
  | onFocus => "ON_FOCUS"
  | restrictionFailed => "RESTRICTION_FAILED"
  | onWindowBeforeUnload => "ON_WINDOW_BEFORE_UNLOAD"

/-- The event with a spelling. -/
def ofName? (s : String) : Option EventType := all.find? fun e => e.name = s

theorem ofName?_name (e : EventType) : ofName? e.name = some e := by cases e <;> rfl

end EventType

/-- The methods of a remote action. -/
inductive HttpMethod
  | get
  | post
  | put
  | delete
  | patch
deriving DecidableEq, Repr, Inhabited

namespace HttpMethod

/-- All methods. -/
def all : List HttpMethod := [get, post, put, delete, patch]

/-- How a method is spelled. -/
def name : HttpMethod → String
  | get => "GET"
  | post => "POST"
  | put => "PUT"
  | delete => "DELETE"
  | patch => "PATCH"

/-- The method with a spelling. -/
def ofName? (s : String) : Option HttpMethod := all.find? fun m => m.name = s

/-- Whether requests with a method carry a body. -/
def carriesBody : HttpMethod → Bool
  | get | delete => false
  | post | put | patch => true

theorem ofName?_name (m : HttpMethod) : ofName? m.name = some m := by cases m <;> rfl

end HttpMethod

/-- The encodings of a request's body. -/
inductive ContentType
  | json
  | urlEncoding
  | formData
  | text
deriving DecidableEq, Repr, Inhabited

namespace ContentType

/-- All encodings. -/
def all : List ContentType := [json, urlEncoding, formData, text]

/-- How an encoding is spelled. -/
def name : ContentType → String
  | json => "JSON"
  | urlEncoding => "URL_ENCODING"
  | formData => "FORM_DATA"
  | text => "TEXT"

/-- The encoding with a spelling. -/
def ofName? (s : String) : Option ContentType := all.find? fun c => c.name = s

theorem ofName?_name (c : ContentType) : ofName? c.name = some c := by cases c <;> rfl

end ContentType

/-- The languages in which a remote action's answer can be reduced. -/
inductive ExpressionKind
  | query
  | template
deriving DecidableEq, Repr, Inhabited

namespace ExpressionKind

/-- Both languages. -/
def all : List ExpressionKind := [query, template]

/-- How a language is spelled. -/
def name : ExpressionKind → String
  | query => "query"
  | template => "template"

/-- The language with a spelling. -/
def ofName? (s : String) : Option ExpressionKind := all.find? fun k => k.name = s

theorem ofName?_name (k : ExpressionKind) : ofName? k.name = some k := by cases k <;> rfl

end ExpressionKind

end WizardLogic
