import WizardLogic.Display
import WizardLogic.Fault

/-!
# The engine's errors

What can be wrong with a document, a request or a setting. An `Error` is a cause, with what is
needed to name it; the wording is `Error.message` alone, and `Error.family` sorts the causes into
the kinds that a caller can tell apart. A `Failure` is how an evaluation ends without a result: by
an error of the engine or by a fault.
-/

namespace WizardLogic

/-- What is wrong with one place of a document. -/
inductive IssueKind
  | missing
  | stringType
  | stringTooShort
  | stringPatternMismatch
  | intType
  | intParsing
  | intFromFloat
  | intParsingSize
  | finiteNumber
  | boolType
  | boolParsing
  | listType
  | dictType
  | modelType
  | enumeration
  /-- A field's name is no text. -/
  | invalidKey
  /-- An invariant of the whole document is broken. -/
  | invariant (text : String)
deriving DecidableEq, Repr

/-- One issue: where it is and what it is. -/
structure Issue where
  /-- The field names and positions that lead to the place. -/
  path : List Value
  kind : IssueKind

/-- The kinds of error a caller can tell apart. -/
inductive Error.Family
  /-- None of the special kinds. -/
  | general
  /-- A descriptor could not be resolved. -/
  | resolution
  /-- A descriptor names something that does not exist. -/
  | notFound
  | query
  | template
  | remote
  | documentInvalid
  | documentMissing
  | settingMissing
deriving DecidableEq, Repr

/-- The family that a family is a special case of. -/
def Error.Family.parent? : Error.Family → Option Error.Family
  | .general => none
  | .notFound => some .resolution
  | _ => some .general

/-- A family and the families that it is a special case of, nearest first. -/
def Error.Family.lineage : Error.Family → List Error.Family
  | .general => [.general]
  | .notFound => [.notFound, .resolution, .general]
  | f => [f, .general]

/-- The causes. -/
inductive Error
  /-- An action lacks a field. -/
  | actionField (field : String) (type : Value)
  /-- A context lacks a field. -/
  | contextField (field : String) (type : Value)
  /-- A step change names no step. -/
  | noStepName
  /-- A loop lacks its name or what it goes through. -/
  | loopIncomplete
  | badPattern (pattern : String)
  | noRemoteAction (name : Value)
  | noLoop (name : Value)
  | noStep (name : Value)
  | noComponent (name step : Value)
  | noGroupIndex
  | contextKind (kind : String)
  | contextType (type : Value)
  | noContextKey
  | conditionKind (kind : String)
  /-- A custom handler gives up with a text. -/
  | custom (text : String)
  | queryMalformed (expression : Value)
  | queryFailed (expression : Value)
  | templateFailed
  /-- A part of a request is not JSON. -/
  | requestPartText (part : String)
  /-- A part of a request is not a JSON object. -/
  | requestPartObject (part : String)
  | requestBody
  | transport (action reason : String)
  | documentInvalid (issues : List Issue)
  | documentUnreadable (path : String)
  | documentNotObject (path : String)
  | wizardName (name : Value)
  | noWizard (name : String)
  | noWizardIn (name directory : String)
  | noSetting (name envName : String)
  | settingType (name : String) (expected : List String) (found : String)
  | loggerName (name : String)

namespace Error

/-- The kind of an error. -/
def family : Error → Family
  | actionField _ _ | contextField _ _ | noStepName | loopIncomplete | badPattern _
  | noGroupIndex | contextKind _ | contextType _ | noContextKey | conditionKind _
  | custom _ => .resolution
  | noRemoteAction _ | noLoop _ | noStep _ | noComponent _ _ => .notFound
  | queryMalformed _ | queryFailed _ => .query
  | templateFailed => .template
  | requestPartText _ | requestPartObject _ | requestBody | transport _ _ => .remote
  | documentInvalid _ | documentUnreadable _ | documentNotObject _ => .documentInvalid
  | wizardName _ | noWizard _ | noWizardIn _ _ => .documentMissing
  | noSetting _ _ => .settingMissing
  | settingType _ _ _ | loggerName _ => .general

/-- The wording of an error. -/
def message : Error → String
  | actionField field type => s!"{field} required for {type.text}"
  | contextField field type => s!"{field} required for {type.text} context"
  | noStepName => "stepName is required for GO_TO_STEP"
  | loopIncomplete => "FOREACH block requires 'name' and 'context'"
  | badPattern pattern => s!"Invalid regular expression '{pattern}':"
  | noRemoteAction name => s!"Remote action '{name.text}' not found"
  | noLoop name => s!"ForEach '{name.text}' not found in stack"
  | noStep name => s!"Step '{name.text}' not found"
  | noComponent name step => s!"Component '{name.text}' not found in step '{step.text}'"
  | noGroupIndex => "No group index in stack"
  | contextKind kind => s!"Context must be an object, got {kind}"
  | contextType type => s!"Unknown context type: {type.text}"
  | noContextKey => "Nested context requires a 'key'"
  | conditionKind kind => s!"Condition must be a boolean or an object, got {kind}"
  | custom text => text
  | queryMalformed expression => s!"Invalid query expression '{expression.text}':"
  | queryFailed expression => s!"Query '{expression.text}' failed:"
  | templateFailed => "Failed to render template:"
  | requestPartText part => s!"{part} must be a JSON string after interpolation"
  | requestPartObject part => s!"{part} must be a JSON object string after interpolation"
  | requestBody => "body must be valid JSON after interpolation"
  | transport action reason => s!"Remote action '{action}' failed: {reason}"
  | documentInvalid _ => "Invalid wizard document:"
  | documentUnreadable path => s!"Failed to parse {path}:"
  | documentNotObject path => s!"Wizard document {path} must be an object"
  | wizardName name => s!"Invalid wizard name: {String.ofList name.literal}"
  | noWizard name => s!"Wizard '{name}' not found"
  | noWizardIn name directory => s!"Wizard '{name}' not found in {directory}"
  | noSetting name envName =>
    s!"Required setting '{name}' was not provided. Pass '{name}' explicitly or set the " ++
      s!"'{envName}' environment variable."
  | settingType name expected found =>
    let types := String.intercalate ", " expected
    s!"Invalid type for setting '{name}': expected {types}, got {found}."
  | loggerName name =>
    s!"Logger name must be 'wizard_engine' or start with 'wizard_engine.', got '{name}'."

end Error

/-- How an evaluation ends without a result. -/
inductive Failure
  | error (e : Error)
  | fault (f : Fault)

namespace Failure

/-- The text of a failure in results and logs: an error's message, or a fault's kind in angle
brackets. -/
def text : Failure → String
  | error e => e.message
  | fault f => s!"<{f.label}>"

end Failure

instance : Coe Error Failure := ⟨Failure.error⟩

instance : Coe Fault Failure := ⟨Failure.fault⟩

end WizardLogic
