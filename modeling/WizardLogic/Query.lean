import WizardLogic.Error
import WizardLogic.Query.Eval

/-!
# Queries on values

`Query.evaluate` applies the query that a text denotes to a value. The named values given with it
are what the function `var` reads.
-/

namespace WizardLogic.Query

/-- The expression that a value given as a query denotes. A value that counts as false is an empty
expression, which is malformed; any other value that is not a text is a fault, and so are the
collections, even empty ones. -/
def expression : Value → Except Failure Expr
  | .list _ | .obj _ => .error (.fault .wrongKind)
  | .str s =>
    if s.isEmpty then .error .query
    else match parse s with
      | .ok e => .ok e
      | .error .malformed => .error .query
      | .error .hugeNumber => .error (.fault .badValue)
  | v => if v.isTrue then .error (.fault .wrongKind) else .error .query

/-- The value of a query applied to a value. -/
def evaluate (query data : Value) (bindings : Entries Value) :
    Except WizardLogic.Failure Value :=
  match expression query with
  | .error .query => .error (Error.queryMalformed query)
  | .error (.fault f) => .error f
  | .ok e =>
    match eval bindings e data with
    | .ok v => .ok v
    | .error .query => .error (Error.queryFailed query)
    | .error (.fault f) => .error f

end WizardLogic.Query
