import WizardLogic.Engine.Condition

/-!
# Contexts and conditions

Interpreting a document is one recursion along its parts. `Engine.resolve` finds the value of a
context and `Engine.evaluate` decides a condition; a rule asks for either only in the parts of what
it is given (`Services`), so the recursion ends.

* The contexts nested in a context are resolved first, in order and all in the same state
  (`Engine.resolveAll`), and only the rule of the context itself sees what they were bound to.
* A condition is decided by the first key of the vocabulary under which it has anything but null; an
  object without such a key does not hold, whatever else it says.
* The lists of `and` and `or` are evaluated in order and no further than needed, so a condition that
  decides the outcome keeps those after it from being evaluated, with their failures and effects.

A descriptor has no end if resolving it asks for resolving it again, so a rule that is given the
whole descriptor can ask for its proper parts only.
-/

namespace WizardLogic.Engine

mutual

/-- **What a context comes to** in a state. -/
def resolve (en : Engine) (s : State) (d : Value) : Effect Holding :=
  match d with
  | .obj es =>
    match (Value.obj es).field "type" with
    | .str type =>
      match en.registry.contexts.lookup type with
      | some rule => do
        let bindings ← resolveAll en s ((Value.obj es).field "contexts")
        en.resolveByRule (services en es) (s.overlay bindings) (.obj es) bindings rule
      | none => Effect.fail (.contextType (.str type))
    | type => Effect.fail (.contextType type)
  | d => Effect.fail (.contextKind d.kindName)
termination_by 4 * sizeOf d + 1
decreasing_by
  · have := Value.sizeOf_field_lt es "contexts"; omega
  · omega

/-- The services for the rule of an object: proper parts of it are interpreted. -/
def services (en : Engine) (es : Entries Value) : Services :=
  { wizard := en.wizard
    resolve := fun s p => match p with
      | [] => throw (Failure.fault .tooDeep)
      | step :: p => resolve en s ((Value.obj es).part (step :: p))
    resolveAll := fun s p => match p with
      | [] => throw (Failure.fault .tooDeep)
      | step :: p => resolveAll en s ((Value.obj es).part (step :: p))
    evaluate := fun s p => match p with
      | [] => throw (Failure.fault .tooDeep)
      | step :: p => evaluate en s ((Value.obj es).part (step :: p)) }
termination_by 4 * sizeOf (Value.obj es)
decreasing_by all_goals have := Value.sizeOf_part_lt es step p; omega

/-- What the contexts that a value lists come to, by their keys. -/
def resolveAll (en : Engine) (s : State) (v : Value) : Effect (Entries Holding) :=
  match v with
  | .list items => resolveEach en s items []
  | v =>
    if !v.isTrue then pure []
    else if v.elements?.isSome then Effect.fail .noContextKey
    else throw (Failure.fault .wrongKind)
termination_by 4 * sizeOf v + 1
decreasing_by simp only [Value.list.sizeOf_spec]; omega

/-- Resolves contexts one after the other and writes each under its key. -/
def resolveEach (en : Engine) (s : State) (items : List Value) (found : Entries Holding) :
    Effect (Entries Holding) :=
  match items with
  | [] => pure found
  | d :: rest =>
    if !(d.field "key").isTrue then Effect.fail .noContextKey
    else do
      let h ← resolve en s d
      match (d.field "key").toKey? with
      | none => throw (Failure.fault .wrongKind)
      | some k => resolveEach en s rest (found.insert k h)
termination_by 4 * sizeOf items
decreasing_by all_goals (simp only [List.cons.sizeOf_spec]; omega)

/-- **Whether a condition holds** in a state. -/
def evaluate (en : Engine) (s : State) (c : Value) : Effect Bool :=
  match c with
  | .bool b => pure b
  | .obj es =>
    match en.registry.conditions.find? fun (k, _) => !((Value.obj es).field k).isNull with
    | none => pure false
    | some (k, rule) => evaluateByRule en s ((Value.obj es).field k) rule
  | c => Effect.fail (.conditionKind c.kindName)
termination_by 4 * sizeOf c + 1
decreasing_by have := Value.sizeOf_field_lt es k; omega

/-- Whether a condition holds by its rule. -/
def evaluateByRule (en : Engine) (s : State) (operand : Value) (rule : ConditionRule) :
    Effect Bool :=
  match rule with
  | .isEmpty => (operandServices en operand).evaluateIsEmpty s operand
  | .matchesRegex => (operandServices en operand).evaluateMatches s operand
  | .equals => (operandServices en operand).evaluateEquals s operand
  | .lessThan => (operandServices en operand).evaluateOrder s .lt operand
  | .moreThan => (operandServices en operand).evaluateOrder s .gt operand
  | .all => evaluateList en s true operand
  | .any => evaluateList en s false operand
  | .negation => do return !(← evaluate en s operand)
  | .remote => en.evaluateRemote (operandServices en operand) s operand
  | .context => (operandServices en operand).evaluateContext s
  | .custom handler => handler (operandServices en operand) s operand
termination_by 4 * sizeOf operand + 3
decreasing_by all_goals omega

/-- The services for the rule of a condition: the operand is interpreted, or parts of it. -/
def operandServices (en : Engine) (operand : Value) : Services :=
  { wizard := en.wizard
    resolve := fun s p => resolve en s (operand.part p)
    resolveAll := fun s p => resolveAll en s (operand.part p)
    evaluate := fun s p => evaluate en s (operand.part p) }
termination_by 4 * sizeOf operand + 2
decreasing_by all_goals have := Value.sizeOf_part_le operand p; omega

/-- Whether all conditions of a list hold (`whole` is true) or one of them does (`whole` is
false). -/
def evaluateList (en : Engine) (s : State) (whole : Bool) (operand : Value) : Effect Bool :=
  match operand with
  | .list items => evaluateItems en s whole items
  | v =>
    match v.elements? with
    | none => throw (Failure.fault .wrongKind)
    | some [] => pure whole
    | some (first :: _) => Effect.fail (.conditionKind first.kindName)
termination_by 4 * sizeOf operand + 2
decreasing_by simp only [Value.list.sizeOf_spec]; omega

/-- Evaluates conditions in order until one decides. -/
def evaluateItems (en : Engine) (s : State) (whole : Bool) (items : List Value) : Effect Bool :=
  match items with
  | [] => pure whole
  | c :: rest => do
    if (← evaluate en s c) = whole then evaluateItems en s whole rest else return !whole
termination_by 4 * sizeOf items
decreasing_by all_goals (simp only [List.cons.sizeOf_spec]; omega)

end

/-- The value that a context comes to. -/
def resolveValue (en : Engine) (s : State) (d : Value) : Effect Value := do
  return s.look (← en.resolve s d)

end WizardLogic.Engine
