import WizardLogic.Engine.Evaluation

/-!
# The rules for actions

An action asks the caller to do something: its payload says what, once all that the action refers
to is resolved (`Engine.payload`). Only binding a local context changes the state, because the
actions and conditions that follow have to see the binding (`Engine.runSetLocalContext`).
-/

namespace WizardLogic

/-- The value of a field that an action has to have. -/
def requireActionField (d : Value) (field : String) : Except Failure Value :=
  match d.field field with
  | .null | .str "" => .error (Error.actionField field (d.field "type"))
  | v => .ok v

/-- The message of a validation error that does not say its own. -/
def defaultErrorMessage : String := "Validation error"

namespace Engine

/-- A text, rendered over the contexts that a value lists; unchanged where there are none. -/
def renderOver (en : Engine) (s : State) (text contexts : Value) : Effect Value := do
  if !contexts.isTrue then return text
  else
    let found ← en.resolveAll s contexts
    return .str (← Effect.ofExcept (Template.render text (s.lookAll found)))

/-- The value an action is about: a context, or else the value itself. -/
def actionValue (en : Engine) (s : State) (d : Value) : Effect Holding :=
  if !(d.field "context").isNull then en.resolve s (d.field "context")
  else pure (.value (d.field "value"))

/-- The step that an action leads to. -/
def targetStep (en : Engine) (s : State) (d : Value) : Effect String :=
  match d.field "stepName" with
  | .str name => if name.isEmpty then Effect.fail .noStepName else pure name
  | .obj es => do
    match ← en.resolveValue s (.obj es) with
    | .null => return ""
    | v => Effect.ofFault v.written
  | _ => Effect.fail .noStepName

/-- A field that an action has to have, rendered over the contexts in another field. -/
def renderedField (en : Engine) (s : State) (d : Value) (field contexts : String) :
    Effect Value := do
  en.renderOver s (← Effect.ofExcept (requireActionField d field)) (d.field contexts)

/-- The payload of an action that only looks at the state. -/
def payload (en : Engine) (s : State) (d : Value) : ActionRule → Effect Value
  | .goToStep => do return .obj [(.str "stepName", .str (← en.targetStep s d))]
  | .saveStepValues => pure (.obj [(.str "values", .obj s.currentStepValues)])
  | .finishWizard => pure (.obj [(.str "allValues", .obj s.allStepValues)])
  | .updateComponent => do
    let name ← Effect.ofExcept (requireActionField d "targetName")
    let prop ← Effect.ofExcept (requireActionField d "targetProp")
    let name ← en.renderOver s name (d.field "targetContexts")
    let value ← en.actionValue s d
    return .obj [(.str "targetName", name), (.str "targetProp", prop),
      (.str "value", s.look value)]
  | .setValue => do
    let name ← en.renderedField s d "targetName" "targetContexts"
    let value ← en.actionValue s d
    return .obj [(.str "targetName", name), (.str "value", s.look value)]
  | .addError => do
    let field ← en.renderedField s d "fieldName" "fieldContexts"
    let text := (d.field "errorMessage").orElse (.str defaultErrorMessage)
    let message ← en.renderOver s text (d.field "contexts")
    return .obj [(.str "fieldName", field), (.str "errorMessage", message)]
  | .clearErrors => do
    let field ← en.renderedField s d "fieldName" "fieldContexts"
    return .obj [(.str "fieldName", field)]
  | .consoleLog => do
    let message ← en.renderOver s ((d.field "message").orElse (.str "")) (d.field "contexts")
    Effect.note ⟨.info, .actions, "[WIZARD LOG] " ++ message.text⟩
    return .obj [(.str "message", message)]
  | .remoteUpdateComponent => do
    let target ← Effect.ofExcept (requireActionField d "targetName")
    let prop ← Effect.ofExcept (requireActionField d "targetProp")
    let name ← Effect.ofExcept (requireActionField d "name")
    if (en.wizard.remoteActionOf? name).isNone then Effect.fail (.noRemoteAction name)
    else return .obj [(.str "targetName", target), (.str "targetProp", prop),
      (.str "actionName", name)]
  | .addGroup => do
    return .obj [(.str "groupName", ← Effect.ofExcept (requireActionField d "groupName"))]
  | .removeGroup => do
    let name ← Effect.ofExcept (requireActionField d "groupName")
    let index ←
      if (d.field "groupIndex").isNull then pure .null else en.resolveValue s (d.field "groupIndex")
    return .obj [(.str "groupName", name), (.str "groupIndex", index)]
  | .takePhoto => do
    return .obj [(.str "fieldName", ← Effect.ofExcept (requireActionField d "fieldName"))]
  | .killTask => do
    return .obj [(.str "taskName", ← Effect.ofExcept (requireActionField d "name"))]
  | .initStepValues | .confirmLeavePage | .setLocalContext | .custom _ => pure .null

/-- Binds a local context. The binding is written out for diagnosis when it is made; a value that
cannot be written fails the action then, and the binding stays. -/
def runSetLocalContext (en : Engine) (d : Value) : Run Value := do
  let name ← Run.look fun _ => Effect.ofExcept (requireActionField d "contextName")
  let held ← Run.look fun s => en.actionValue s d
  match name.toKey? with
  | none => throw (Failure.fault .wrongKind)
  | some k =>
    Run.change (·.bind k held)
    let value ← Run.look fun s => pure (s.look held)
    if name.isWritable && value.isWritable then
      return .obj [(.str "contextName", name), (.str "value", value)]
    else throw (Failure.fault .badValue)

end Engine

end WizardLogic
