import WizardLogic.Document.Basic
import WizardLogic.Engine.Run
import WizardLogic.Value.Parts

/-!
# The vocabulary of the engine

Contexts, conditions, actions and blocks are objects that name their kind by a tag. A `Registry`
says by which rule each tag is interpreted. The built-in rules (`Registry.builtIn`) are closed
vocabularies; beside them each family has custom rules, which are functions. A custom rule sees the
descriptor, the bindings and the state, and it can ask the engine to interpret what stands in its
own descriptor, at any depth (`Services`, `RunServices`): it interprets nothing that is not in the
document. Rules for contexts and conditions look at the state and may ask for contexts and
conditions; rules for actions and blocks may change it and ask for actions and blocks besides.

Conditions carry their tag as a key, and the keys are tried in the order of the registry. A tag that
is registered again keeps its place in that order.
-/

namespace WizardLogic

/-- What the rule of a context or a condition can ask of the engine, each for a part of the
descriptor, or of the value under the key of a condition. -/
structure Services where
  wizard : Wizard
  /-- Resolves the context that is a part. -/
  resolve : State → PartPath → Effect Holding
  /-- Resolves the list of contexts that is a part. -/
  resolveAll : State → PartPath → Effect (Entries Holding)
  /-- Evaluates the condition that is a part. -/
  evaluate : State → PartPath → Effect Bool

/-- What the rule of an action or a block can ask of the engine besides. -/
structure RunServices extends Services where
  /-- Runs the action that is a part. -/
  runAction : PartPath → Run ActionResult
  /-- Runs the actions that a part lists. -/
  runActions : PartPath → Run (List ActionResult)
  /-- Runs the block that is a part. -/
  runBlock : PartPath → Run (List ActionResult)
  /-- Runs the blocks that a part lists. -/
  runBlocks : PartPath → Run (List ActionResult)

/-- A custom rule for contexts: from the descriptor and the bindings of its own contexts. -/
abbrev ContextHandler := Services → State → Value → Entries Holding → Effect Holding

/-- A custom rule for conditions: from the value under the key. -/
abbrev ConditionHandler := Services → State → Value → Effect Bool

/-- A custom rule for actions: from the descriptor to the payload. -/
abbrev ActionHandler := RunServices → Value → Run Value

/-- A custom rule for blocks: from the descriptor. -/
abbrev BlockHandler := RunServices → Value → Run (List ActionResult)

/-- The rules for contexts. -/
inductive ContextRule
  /-- A constant. -/
  | value
  | currentStepValues
  | allStepValues
  /-- The properties of a component. -/
  | componentValues
  | template
  | remoteAction
  /-- The current iteration of a loop. -/
  | loop
  | groupIndex
  | localContext
  | custom (handler : ContextHandler)

/-- The rules for conditions. -/
inductive ConditionRule
  | isEmpty
  | matchesRegex
  | equals
  | lessThan
  | moreThan
  /-- All conditions of a list hold. -/
  | all
  /-- One condition of a list holds. -/
  | any
  | negation
  /-- A remote action succeeds and its result counts as true. -/
  | remote
  /-- A context counts as true. -/
  | context
  | custom (handler : ConditionHandler)

/-- The rules for actions. -/
inductive ActionRule
  | goToStep
  | saveStepValues
  | initStepValues
  | finishWizard
  | updateComponent
  | setValue
  | addError
  | clearErrors
  | consoleLog
  | remoteUpdateComponent
  | addGroup
  | removeGroup
  | takePhoto
  | killTask
  | setLocalContext
  | confirmLeavePage
  | custom (handler : ActionHandler)

/-- The rules for blocks. -/
inductive BlockRule
  | actions
  | conditional
  | forEach
  | scheduleTask
  | custom (handler : BlockHandler)

/-- The rules of one family by tag, in the order in which the tags were registered. -/
abbrev Rules (α : Type) := List (String × α)

namespace Rules

variable {α : Type}

/-- The tags in order. -/
def tags (rs : Rules α) : List String := rs.map Prod.fst

/-- Registers a rule for a tag: in the place of the tag's earlier rule, else at the end. -/
def register (tag : String) (rule : α) : Rules α → Rules α
  | [] => [(tag, rule)]
  | (t, r) :: rs => if t = tag then (t, rule) :: rs else (t, r) :: register tag rule rs

end Rules

/-- The rules of all families. -/
structure Registry where
  contexts : Rules ContextRule
  conditions : Rules ConditionRule
  actions : Rules ActionRule
  blocks : Rules BlockRule

namespace Registry

/-- **The built-in vocabulary.** -/
def builtIn : Registry where
  contexts := [("VALUE", .value), ("CURRENT_STEP_VALUES", .currentStepValues),
    ("ALL_STEP_VALUES", .allStepValues), ("COMPONENT_VALUES", .componentValues),
    ("TEMPLATE", .template), ("REMOTE_ACTION", .remoteAction), ("FOREACH", .loop),
    ("GROUP_INDEX", .groupIndex), ("LOCAL_CONTEXT", .localContext), ("LOCAL", .localContext)]
  conditions := [("isEmpty", .isEmpty), ("matchesRegex", .matchesRegex), ("equals", .equals),
    ("lessThan", .lessThan), ("moreThan", .moreThan), ("and", .all), ("or", .any),
    ("not", .negation), ("remote", .remote), ("context", .context)]
  actions := [("GO_TO_STEP", .goToStep), ("SAVE_STEP_VALUES", .saveStepValues),
    ("INIT_STEP_VALUES", .initStepValues), ("FINISH_WIZARD", .finishWizard),
    ("UPDATE_COMPONENT", .updateComponent), ("SET_VALUE", .setValue), ("ADD_ERROR", .addError),
    ("CLEAR_ERRORS", .clearErrors), ("CONSOLE_LOG", .consoleLog),
    ("REMOTE_UPDATE_COMPONENT", .remoteUpdateComponent), ("ADD_GROUP", .addGroup),
    ("REMOVE_GROUP", .removeGroup), ("TAKE_PHOTO", .takePhoto), ("KILL_TASK", .killTask),
    ("SET_LOCAL_CONTEXT", .setLocalContext), ("CONFIRM_LEAVE_PAGE", .confirmLeavePage)]
  blocks := [("ACTIONS", .actions), ("CONDITIONAL", .conditional), ("FOREACH", .forEach),
    ("SCHEDULE_TASK", .scheduleTask)]

/-- Registers a rule for a context type. -/
def withContext (r : Registry) (tag : String) (rule : ContextRule) : Registry :=
  { r with contexts := r.contexts.register tag rule }

/-- Registers a rule for a condition key. -/
def withCondition (r : Registry) (key : String) (rule : ConditionRule) : Registry :=
  { r with conditions := r.conditions.register key rule }

/-- Registers a rule for an action type. -/
def withAction (r : Registry) (tag : String) (rule : ActionRule) : Registry :=
  { r with actions := r.actions.register tag rule }

/-- Registers a rule for a block type. -/
def withBlock (r : Registry) (tag : String) (rule : BlockRule) : Registry :=
  { r with blocks := r.blocks.register tag rule }

end Registry

/-- An engine: a wizard, the vocabulary it is interpreted by, and how requests introduce
themselves. -/
structure Engine where
  wizard : Wizard
  registry : Registry := .builtIn
  userAgent : String

end WizardLogic
