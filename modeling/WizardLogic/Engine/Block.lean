import WizardLogic.Engine.Action

/-!
# Actions and blocks

An action is run by its rule, and running it never fails (`Engine.runAction`). A rule that fails
gives a result with the error's text, and the log notes a warning; whatever the rule had done by
then stays done. So siblings run whether or not the ones before them succeed (`Engine.runActions`).

Blocks are the control flow of a document. A block runs actions and further blocks, and what comes
of it are the results of all actions that it ran, in the order in which they ran.

* A block of actions runs its actions.
* A conditional block decides its condition first, then runs its own actions and then one of its
  two branches, which may see what the actions bound although the choice did not.
* A loop finds its array once and then runs its actions and its blocks for every item, with the
  item on the state's stack of running loops.
* A scheduled task runs its blocks at once.

A block of any other type runs its actions. Unlike an action, a block may fail, and then what
encloses it fails too.

A custom rule may run the actions and blocks in its descriptor, also if it is a rule for actions, so
running both is one recursion along the parts of a document.
-/

namespace WizardLogic.Engine

/-- The type of a block: what it says, or conditional when it says nothing but has conditions. -/
def blockType (b : Value) : Value :=
  match b.field "type" with
  | .null => if (b.get? (.str "conditions")).isSome then .str "CONDITIONAL" else .null
  | type => type

/-- Whether the condition of a conditional block holds; a block without condition goes on. -/
def passes (en : Engine) (b : Value) : Run Bool :=
  if (b.field "conditions").isNull then pure true
  else Run.look fun s => en.evaluate s (b.field "conditions")

/-- The items that a loop goes through: those of a list, and none of anything else. -/
def loopItems (en : Engine) (b : Value) : Run (List Value) := do
  if !(b.field "name").isTrue || (b.field "context").isNull then Run.fail .loopIncomplete
  else
    match ← Run.look fun s => en.resolveValue s (b.field "context") with
    | .list items => return items
    | _ => return []

/-- Runs the body of a loop for every item from a position on. -/
def iterate (name : Value) (array : List Value) (body : Run (List ActionResult)) :
    Nat → List Value → Run (List ActionResult)
  | _, [] => pure []
  | i, item :: rest => do
    let rs ← Run.within ⟨name, .int i, item, array⟩ body
    let more ← iterate name array body (i + 1) rest
    return rs ++ more

/-- The type that results give to actions of no known type. -/
def unknownType : String := "UNKNOWN"

/-- Notes a warning of the engine. -/
def warn (text : String) : StateM World Unit := Run.note ⟨.warning, .engine, text⟩

mutual

/-- What an action comes to by its rule. -/
def runByRule (en : Engine) (d : Value) (rule : ActionRule) : Run Value :=
  match rule with
  | .setLocalContext => en.runSetLocalContext d
  | .custom handler =>
    match d with
    | .obj es => handler (runServices en es) (.obj es)
    | _ => throw (Failure.fault .noMember)
  | rule => Run.look fun s => en.payload s d rule
termination_by 4 * sizeOf d + 1
decreasing_by omega

/-- **Runs an action.** -/
def runAction (en : Engine) (d : Value) : StateM World ActionResult := do
  let rule? := match d.field "type" with
    | .str type => (en.registry.actions.lookup type).map fun rule => (type, rule)
    | _ => none
  match rule? with
  | none =>
    let text := "Unknown action type: " ++ (d.field "type").text
    warn text
    return { type := unknownType, error := some text }
  | some (type, rule) =>
    match ← (runByRule en d rule).run with
    | .ok payload => return { type, payload }
    | .error failure =>
      warn s!"Action {type} failed: {failure.text}"
      return { type, error := some failure.text }
termination_by 4 * sizeOf d + 2
decreasing_by omega

/-- Runs actions one after the other. -/
def runEach (en : Engine) (items : List Value) : StateM World (List ActionResult) :=
  match items with
  | [] => pure []
  | d :: rest => do
    let r ← runAction en d
    let rs ← runEach en rest
    return r :: rs
termination_by 4 * sizeOf items
decreasing_by all_goals (simp only [List.cons.sizeOf_spec]; omega)

/-- **Runs the sibling actions that a value lists,** in their order. -/
def runActions (en : Engine) (v : Value) : Run (List ActionResult) :=
  match _h : siblingsOf v with
  | .error f => throw (Failure.fault f)
  | .ok items => ExceptT.lift (runEach en items)
termination_by 4 * sizeOf v + 1
decreasing_by have := sizeOf_siblings_le _h; omega

/-- **Runs a block.** -/
def runBlock (en : Engine) (b : Value) : Run (List ActionResult) :=
  match b with
  | .obj es =>
    let rule? := match blockType (.obj es) with
      | .str type => en.registry.blocks.lookup type
      | _ => none
    match rule? with
    | none | some .actions => runActions en ((Value.obj es).field "actions")
    | some .conditional => do
      let passed ← en.passes (.obj es)
      let results ← runActions en ((Value.obj es).field "actions")
      let branch ←
        if passed then runBlocks en ((Value.obj es).field "then")
        else runBlocks en ((Value.obj es).field "else")
      return results ++ branch
    | some .forEach => do
      let items ← en.loopItems (.obj es)
      iterate ((Value.obj es).field "name") items
        (do
          let results ← runActions en ((Value.obj es).field "actions")
          let more ← runBlocks en ((Value.obj es).field "blocks")
          return results ++ more)
        0 items
    | some .scheduleTask => runBlocks en ((Value.obj es).field "blocks")
    | some (.custom handler) => handler (runServices en es) (.obj es)
  | _ => throw (Failure.fault .noMember)
termination_by 4 * sizeOf b + 1
decreasing_by
  all_goals first
    | have := Value.sizeOf_field_lt es "actions"; omega
    | have := Value.sizeOf_field_lt es "then"; omega
    | have := Value.sizeOf_field_lt es "else"; omega
    | have := Value.sizeOf_field_lt es "blocks"; omega

/-- The services for the rule of an action or a block: proper parts of it are interpreted and
run. -/
def runServices (en : Engine) (es : Entries Value) : RunServices :=
  { toServices := en.services es
    runAction := fun p => match p with
      | [] => throw (Failure.fault .tooDeep)
      | step :: p => ExceptT.lift (runAction en ((Value.obj es).part (step :: p)))
    runActions := fun p => match p with
      | [] => throw (Failure.fault .tooDeep)
      | step :: p => runActions en ((Value.obj es).part (step :: p))
    runBlock := fun p => match p with
      | [] => throw (Failure.fault .tooDeep)
      | step :: p => runBlock en ((Value.obj es).part (step :: p))
    runBlocks := fun p => match p with
      | [] => throw (Failure.fault .tooDeep)
      | step :: p => runBlocks en ((Value.obj es).part (step :: p)) }
termination_by 4 * sizeOf (Value.obj es)
decreasing_by all_goals have := Value.sizeOf_part_lt es step p; omega

/-- **Runs the sibling blocks that a value lists,** in their order. -/
def runBlocks (en : Engine) (v : Value) : Run (List ActionResult) :=
  match _h : siblingsOf v with
  | .error f => throw (Failure.fault f)
  | .ok items => runBlockList en items
termination_by 4 * sizeOf v + 1
decreasing_by have := sizeOf_siblings_le _h; omega

/-- Runs blocks one after the other. -/
def runBlockList (en : Engine) (items : List Value) : Run (List ActionResult) :=
  match items with
  | [] => pure []
  | b :: rest => do
    let results ← runBlock en b
    let more ← runBlockList en rest
    return results ++ more
termination_by 4 * sizeOf items
decreasing_by all_goals (simp only [List.cons.sizeOf_spec]; omega)

end

end WizardLogic.Engine
