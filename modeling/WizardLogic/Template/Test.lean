import WizardLogic.Template.Operator

/-!
# Tests

A test asks a question about a value, in some cases with a further argument. `testNames` lists the
tests there are and `filterNames` the filters; `callTest` answers.
-/

namespace WizardLogic.Template

open Render

/-- The filters there are. -/
def filterNames : List String :=
  ["abs", "attr", "batch", "capitalize", "center", "count", "d", "default", "dictsort", "e",
   "escape", "filesizeformat", "first", "float", "forceescape", "format", "groupby", "indent",
   "int", "items", "join", "last", "length", "list", "lower", "map", "max", "min", "pprint",
   "prettyjson", "random", "reject", "rejectattr", "replace", "reverse", "round", "safe",
   "select", "selectattr", "slice", "sort", "string", "striptags", "sum", "title", "tojson",
   "trim", "truncate", "unique", "upper", "urlencode", "urlize", "wordcount", "wordwrap",
   "xmlattr"]

/-- The tests that compare a value with another one. -/
def comparingTests : List (String × CompareOp) :=
  [("eq", .eq), ("equalto", .eq), ("==", .eq), ("ne", .ne), ("!=", .ne),
   ("lt", .lt), ("lessthan", .lt), ("<", .lt), ("le", .le), ("<=", .le),
   ("gt", .gt), ("greaterthan", .gt), (">", .gt), ("ge", .ge), (">=", .ge)]

/-- The tests there are. -/
def testNames : List String :=
  ["boolean", "callable", "defined", "divisibleby", "escaped", "even", "false", "filter", "float",
   "in", "integer", "iterable", "lower", "mapping", "none", "number", "odd", "sameas", "sequence",
   "string", "test", "true", "undefined", "upper"] ++ comparingTests.map Prod.fst

/-- Whether two values are the same object. References are the same if they are to one cell; other
values are if they are of one kind and equal, except for those that are made anew whenever they are
asked for. -/
def isSame : Val → Val → Bool
  | .none, .none => true
  | .bool a, .bool b => a = b
  | .int a, .int b => a = b
  | .float a, .float b => a = b
  | .str a, .str b => a = b
  | .markup a, .markup b => a = b
  | .tuple a, .tuple b => Val.sameKeys a b
  | .group k a, .group l b => Val.sameKey k l && Val.sameKey a b
  | .cell _ a, .cell _ b => a = b
  | .global a, .global b => a = b
  | _, _ => false

/-- Whether a value can be called. -/
def isCallable : Val → Bool
  | .undefined | .global _ | .method _ _ => true
  | .cell .definition _ | .cell .joiner _ | .cell .loop _ | .cell .block _ => true
  | _ => false

/-- Whether a value is a number of any kind. -/
def isNumber : Val → Bool
  | .complex _ => true
  | v => v.number?.isSome

/-- Whether a value has a length and items at positions or under keys. -/
def isSequence : Val → Bool
  | .undefined | .str _ | .markup _ | .bytes _ | .tuple _ | .group _ _ | .range _ _ _ => true
  | .cell .list _ | .cell .dict _ => true
  | _ => false

/-- Whether a value can be gone through. -/
def isIterable : Val → Bool
  | .set _ | .view _ _ => true
  | .cell .iterator _ | .cell .loop _ | .cell .blocks _ => true
  | v => isSequence v

/-- A question about a value alone that needs no look at cells. -/
def plainAnswer? (name : String) (v : Val) : Option Bool :=
  match name with
  | "boolean" => some (match v with | .bool _ => true | _ => false)
  | "callable" => some (isCallable v)
  | "defined" => some !v.isUndefined
  | "undefined" => some v.isUndefined
  | "escaped" => some v.isMarkup
  | "false" => some (match v with | .bool b => !b | _ => false)
  | "true" => some (match v with | .bool b => b | _ => false)
  | "float" => some (match v with | .float _ => true | _ => false)
  | "integer" => some (match v with | .int _ => true | _ => false)
  | "number" => some (isNumber v)
  | "none" => some v.isNone
  | "string" => some v.text?.isSome
  | "mapping" => some (match v with | .cell .dict _ => true | _ => false)
  | "sequence" => some (isSequence v)
  | "iterable" => some (isIterable v)
  | _ => none

/-- Whether a value leaves a remainder when it is divided. -/
def leaves (v by' : Val) (remainder : Int) : Render Bool := do
  areEqual (← modVals v by') (.int remainder)

/-- The answer of a test with a further argument, given the name that the argument may have. -/
def withArgument (a : CallArgs) (name : Option String) (ask : Val → Render Bool) : Render Bool :=
  match a.positional, a.named with
  | [x], [] => ask x
  | [], [(n, x)] => if name = some n then ask x else invalid
  | _, _ => invalid

/-- **The answer of a test.** An unknown test is invalid. -/
def callTest (p : Powers) (name : String) (v : Val) (a : CallArgs) : Render Bool := do
  let alone (ask : Render Bool) : Render Bool :=
    if a.positional.isEmpty && a.named.isEmpty then ask else invalid
  match plainAnswer? name v, comparingTests.lookup name with
  | some answer, _ => alone (pure answer)
  | none, some op => withArgument a none (compareVals p op v)
  | none, none =>
  match name with
  | "divisibleby" => withArgument a (some "num") fun n => leaves v n 0
  | "even" => alone (leaves v (.int 2) 0)
  | "odd" => alone (leaves v (.int 2) 1)
  | "in" => withArgument a (some "seq") (isIn p v)
  | "sameas" => withArgument a (some "other") fun x => pure (isSame v x)
  | "filter" =>
    alone (if v.isHashable then pure (v.text?.any filterNames.contains) else invalid)
  | "test" => alone (if v.isHashable then pure (v.text?.any testNames.contains) else invalid)
  | "lower" => alone do return casedAll Text.isLowercase (← textOf v).toList
  | "upper" => alone do return casedAll Text.isUppercase (← textOf v).toList
  | _ => invalid

end WizardLogic.Template
