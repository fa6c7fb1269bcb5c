import WizardLogic.Value

/-!
# Query expressions

A query selects and reshapes parts of a JSON value. An expression is applied to a current value;
most forms apply one subexpression to the value and another to what it yields (`andThen`). The
projections apply their right side to every element of what the left side yields and drop the
nulls among the results.

An index written behind another index is told apart from a general `andThen` (`indexed`), because
a slice in that place selects without starting a projection.
-/

namespace WizardLogic.Query

/-- The comparison operators. -/
inductive Comparator
  | eq | ne | lt | le | gt | ge
deriving DecidableEq, Repr

/-- A query expression. -/
inductive Expr
  /-- The current value. -/
  | current
  /-- The value of an object's field. -/
  | field (name : String)
  /-- A constant. -/
  | literal (v : Value)
  /-- An element of a list, counted from the end when negative. -/
  | index (n : Int)
  /-- The elements of a list from a start to an end, by steps. -/
  | slice (start stop step : Option Int)
  /-- The second expression applied to the value of the first. -/
  | andThen (first second : Expr)
  /-- The same, where the second is an index or a slice. -/
  | indexed (first second : Expr)
  /-- The right side for every element of a list. -/
  | projection (left right : Expr)
  /-- The right side for every value of an object. -/
  | valueProjection (left right : Expr)
  /-- The right side for every element of a list that satisfies a condition. -/
  | filterProjection (left right condition : Expr)
  /-- A list with the elements of its lists spliced in, one level deep. -/
  | flatten (e : Expr)
  | comparison (op : Comparator) (left right : Expr)
  | or (left right : Expr)
  | and (left right : Expr)
  | not (e : Expr)
  /-- The list of the values of several expressions. -/
  | multiList (items : List Expr)
  /-- The object of the values of several expressions. -/
  | multiObject (entries : List (String × Expr))
  /-- A function call. -/
  | call (name : String) (args : List Expr)
  /-- An expression given to a function unevaluated. -/
  | reference (e : Expr)
deriving Inhabited

end WizardLogic.Query
