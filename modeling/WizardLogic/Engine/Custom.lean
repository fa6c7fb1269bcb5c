import WizardLogic.Engine.Registry

/-!
# Simple custom rules

Custom rules that show what a rule can do: hand back what it was given, ask the engine to interpret
a field of its own descriptor, look at the document, or fail.
-/

namespace WizardLogic

/-- Hands back the value of a context together with its bindings. -/
def ContextHandler.echo : ContextHandler := fun _ s d bindings =>
  pure (.value (.obj [(.str "value", d.field "value"),
    (.str "bindings", .obj (s.lookAll bindings))]))

/-- Holds when the operand says yes. -/
def ConditionHandler.saysYes : ConditionHandler := fun _ _ operand =>
  pure (operand.looseEq (.str "yes"))

namespace ActionHandler

/-- Gives up. -/
def giveUp : ActionHandler := fun _ _ => throw (Failure.fault .handler)

/-- Fails with an error that says so. -/
def refuse (type : String) : ActionHandler := fun _ _ =>
  Run.fail (.custom s!"custom failure in {type}")

/-- Says whether the condition of the action holds. -/
def decideCondition : ActionHandler := fun services _ =>
  Run.look fun s => do return .bool (← services.evaluate s "condition")

/-- Says the name of the wizard. -/
def nameWizard : ActionHandler := fun services _ => pure (.str services.wizard.name)

/-- Hands back the text of the action. -/
def echoText : ActionHandler := fun _ d => pure (d.field "text")

end ActionHandler

/-- Runs the actions of the block twice. -/
def BlockHandler.twice : BlockHandler := fun services _ => do
  let first ← services.runActions "actions"
  let second ← services.runActions "actions"
  return first ++ second

end WizardLogic
