import WizardLogic.Engine.Registry
import WizardLogic.Remote.Call
import WizardLogic.Value.Parts

/-!
# The rules for contexts

A context is an object that says by its type where a value comes from. `Engine.resolveByRule` says
how each type finds its value, once the contexts nested in the context are resolved: what these come
to is bound by their keys, both for queries and as local contexts, for this one context only.

Looking at the state changes nothing in it: a resolution is given a state and has effects outside
only.
-/

namespace WizardLogic

/-- The value of a field that a context has to have. -/
def requireField (d : Value) (field : String) : Effect Value :=
  match d.field field with
  | .null | .str "" => Effect.fail (.contextField field (d.field "type"))
  | v => pure v

/-- Whether a query selects all of what it is applied to. -/
def selectsAll (expression : Value) : Bool :=
  match Query.expression expression with
  | .ok .current => true
  | _ => false

/-- What an optional query selects: everything, where there is no query. -/
def select (s : State) (expression : Value) (h : Holding) (bindings : Entries Holding) :
    Effect Holding :=
  if !expression.isTrue || selectsAll expression then pure h
  else Effect.ofExcept
    ((Query.evaluate expression (s.look h) (s.lookAll bindings)).map Holding.value)

/-- The value under a key that is itself a value. -/
def lookUp {α : Type} (es : Entries α) (key : Value) : Except Fault (Option α) :=
  match key.toKey? with
  | some k => .ok (es.get? k)
  | none => .error .wrongKind

/-- The remote action with a name, which may be any value. -/
def Wizard.remoteActionOf? (w : Wizard) : Value → Option RemoteAction
  | .str name => w.remoteAction? name
  | _ => none

/-- The first of two values that counts as true, else the second. -/
def Value.orElse (v w : Value) : Value := if v.isTrue then v else w

namespace Engine

/-- Calls the remote action with a name. -/
def callRemote (en : Engine) (name : Value) (contexts : Entries Value) : Effect RemoteResult :=
  match en.wizard.remoteActionOf? name with
  | none => Effect.fail (.noRemoteAction name)
  | some a => a.run en.userAgent contexts

/-- What a context comes to by its rule, in a state where its bindings are local contexts. -/
def resolveByRule (en : Engine) (services : Services) (s : State) (d : Value)
    (bindings : Entries Holding) : ContextRule → Effect Holding
  | .value => pure (.value (d.field "value"))
  | .currentStepValues =>
    select s ((d.field "expression").orElse (d.field "fieldName")) (.slice .currentStepValues)
      bindings
  | .allStepValues => select s (d.field "expression") (.slice .allStepValues) bindings
  | .componentValues => do
    let name ← requireField d "componentName"
    let found ← Effect.ofFault (lookUp s.componentStates name)
    select s (d.field "expression") (.value (found.getD .null)) bindings
  | .template => do
    let template ← requireField d "template"
    let data := (s.currentStepValues.merge s.allStepValues).merge (s.lookAll bindings)
    let text ← Effect.ofExcept (Template.render template data)
    return .value (Json.readOrText text)
  | .remoteAction => do
    let name ← requireField d "actionName"
    let result ← en.callRemote name (s.currentStepValues.merge (s.lookAll bindings))
    return .value result.result
  | .loop => do
    let name ← requireField d "forEachName"
    match s.findFrame? name with
    | none => Effect.fail (.noLoop name)
    | some frame =>
      if (d.field "expression").isTrue then
        let data := Value.obj [(.str "index", frame.index), (.str "item", frame.item),
          (.str "array", .list frame.array)]
        select s (d.field "expression") (.value data) bindings
      else return .value frame.toValue
  | .groupIndex =>
    match s.groupIndex?.getD .null with
    | .null => Effect.fail .noGroupIndex
    | index => select s (d.field "expression") (.value index) bindings
  | .localContext => do
    let key ← requireField d "key"
    let found ← Effect.ofFault (lookUp s.localContexts key)
    select s (d.field "expression") (found.getD (.value .null)) bindings
  | .custom handler => handler services s d bindings

end Engine

end WizardLogic
