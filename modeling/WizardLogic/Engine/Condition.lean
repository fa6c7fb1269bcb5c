import WizardLogic.Coercion
import WizardLogic.Engine.Context
import WizardLogic.Regex.Parser
import WizardLogic.Regex.Matcher

/-!
# The tests of conditions

A condition is a truth value or an object with a predicate under one key. The predicates that do not
put conditions together are tests of values: of one that is found in the state, of two that are
compared, or of what a remote action answers. What a test is about it asks for by the same services
as a custom rule does.
-/

namespace WizardLogic

/-- Fails unless a value is an object, as the operands of most predicates have to be. -/
def requireObject (v : Value) : Effect Unit :=
  if v.isObject then pure () else throw (Failure.fault .noMember)

/-- The expression that a pattern denotes. -/
def readPattern (pattern : Value) : Except Failure Regex.Node :=
  match pattern with
  | .str p => match Regex.parse p with
    | .ok node => .ok node
    | .error .malformed => .error (Error.badPattern p)
    | .error .hugeCount => .error (.fault .overflow)
    | .error .twoAlphabets => .error (.fault .badValue)
  | _ => .error (.fault .wrongKind)

namespace Services

variable (services : Services) (s : State)

/-- The value that the context in a part comes to. -/
def resolveValue (p : PartPath) : Effect Value := do
  return s.look (← services.resolve s p)

/-- The value that a test is about: a context, or else a query on the values of the step. -/
def subject (operand : Value) : Effect (Option Value) := do
  requireObject operand
  if !(operand.field "context").isNull then
    return some (← services.resolveValue s "context")
  else if (operand.field "path").isTrue then
    return some (← Effect.ofExcept
      (Query.evaluate (operand.field "path") (.obj s.currentStepValues) []))
  else return none

/-- The left side of a comparison: a context, or else a default. -/
def leftSide (operand absent : Value) : Effect Value := do
  requireObject operand
  if !(operand.field "context").isNull then services.resolveValue s "context"
  else return absent

/-- The right side of a comparison: a context where the value looks like one, else the value. -/
def rightSide (operand : Value) : Effect Value :=
  let v := operand.field "value"
  if (v.get? (.str "type")).isSome then services.resolveValue s "value" else pure v

/-- Both sides of a comparison as numbers. -/
def numberSides (operand : Value) : Effect (Double × Double) := do
  let left ← services.leftSide s operand (.int 0)
  let right ← services.rightSide s operand
  return (← Effect.ofFault left.toNumber, ← Effect.ofFault right.toNumber)

/-- Whether the subject of a test is empty; a test without subject is. -/
def evaluateIsEmpty (operand : Value) : Effect Bool := do
  match ← services.subject s operand with
  | none => return true
  | some v => return v.isEmptyValue

/-- Whether the text of a subject has a match of a pattern; a test without subject has none. -/
def evaluateMatches (operand : Value) : Effect Bool := do
  match ← services.subject s operand with
  | none => return false
  | some v =>
    let node ← Effect.ofExcept (readPattern ((operand.field "value").orElse (.str "")))
    if v.isWritable then return node.search (if v.isNull then "" else v.matchText)
    else throw (Failure.fault .badValue)

/-- Whether both sides of a comparison are the same. -/
def evaluateEquals (operand : Value) : Effect Bool := do
  let left ← services.leftSide s operand .null
  let right ← services.rightSide s operand
  return left.strictEq right

/-- Whether two numbers compare in a given way. -/
def evaluateOrder (order : Ordering) (operand : Value) : Effect Bool := do
  let (a, b) ← services.numberSides s operand
  return a.compare? b = some order

/-- Whether a context counts as true. -/
def evaluateContext : Effect Bool := do
  return (← services.resolveValue s []).isTruthy

end Services

/-- The field in which a remote condition lists its contexts. -/
def remoteContextsField (operand : Value) : String :=
  if (operand.field "context").isTrue then "context" else "contexts"

/-- Whether a remote action succeeds with a result that counts as true. -/
def Engine.evaluateRemote (en : Engine) (services : Services) (s : State) (operand : Value) :
    Effect Bool := do
  requireObject operand
  let name := operand.field "name"
  if (en.wizard.remoteActionOf? name).isNone then Effect.fail (.noRemoteAction name)
  else
    let found ← services.resolveAll s (remoteContextsField operand)
    let result ← en.callRemote name (s.currentStepValues.merge (s.lookAll found))
    return result.ok && result.result.isTruthy

end WizardLogic
