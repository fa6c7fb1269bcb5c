import WizardLogic.Number.Complex

/-!
# The parts of a template

A template is a list of statements: literal text, printed expressions and tags. Expressions have
constants, names, collections, access to members and items, calls, filters, tests and operators.

A constant that is written down is a number, a text, a boolean or none. Collections and markup
become constants when an expression without names is evaluated before rendering.
-/

namespace WizardLogic.Template

/-- The arithmetic operators. -/
inductive BinaryOp
  | add | sub | mul | div | floorDiv | mod | pow
deriving DecidableEq, Repr

/-- The comparison operators. -/
inductive CompareOp
  | eq | ne | lt | le | gt | ge | isIn | notIn
deriving DecidableEq, Repr

/-- The role of an argument in a call. -/
inductive ArgKind
  | positional
  | named (name : String)
  /-- A collection whose elements are positional arguments. -/
  | spread
  /-- An object whose entries are named arguments. -/
  | spreadNamed
deriving DecidableEq, Repr

/-- Constants. -/
inductive Const
  | none
  | bool (b : Bool)
  | int (n : Int)
  | float (d : Double)
  | complex (z : Complex)
  | str (s : String)
  | markup (s : String)
  | list (items : List Const)
  | tuple (items : List Const)
  | dict (entries : List (Const × Const))
deriving Inhabited

/-- Expressions. -/
inductive Expr
  | const (c : Const)
  | name (n : String)
  | list (items : List Expr)
  | tuple (items : List Expr)
  | dict (entries : List (Expr × Expr))
  /-- A member by name: attributes come before items. -/
  | attr (e : Expr) (name : String)
  /-- An item by key: items come before attributes. -/
  | item (e key : Expr)
  /-- The items from a start to an end, by steps; absent bounds are the constant none. -/
  | slice (e start stop step : Expr)
  /-- The bounds of a slice in the place of a key among several. -/
  | bounds (start stop step : Expr)
  | call (f : Expr) (args : List (ArgKind × Expr))
  | filter (e : Expr) (name : String) (args : List (ArgKind × Expr))
  | test (e : Expr) (name : String) (args : List (ArgKind × Expr))
  | not (e : Expr)
  | neg (e : Expr)
  | pos (e : Expr)
  | binary (op : BinaryOp) (left right : Expr)
  | and (left right : Expr)
  | or (left right : Expr)
  /-- The texts of several values, joined. -/
  | concat (items : List Expr)
  /-- A chain of comparisons. -/
  | compare (first : Expr) (rest : List (CompareOp × Expr))
  /-- The first expression if the condition holds, else the other. -/
  | cond (condition yes : Expr) (no : Option Expr)
deriving Inhabited

/-- What a value is assigned to. -/
inductive Target
  | name (n : String)
  /-- A member of a namespace object. -/
  | member (space name : String)
  | tuple (items : List Target)
deriving Inhabited

/-- The arguments of a call as they are written. -/
abbrev Args := List (ArgKind × Expr)

/-- The parameters of a definition, some with a default. -/
abbrev Params := List (String × Option Expr)

/-- A filter and its arguments, to be applied to a captured text. -/
abbrev FilterCall := String × Args

/-- Statements. -/
inductive Stmt
  | text (s : String)
  /-- Names that are mentioned, although nothing depends on their values. -/
  | mention (names : List String)
  | print (e : Expr)
  /-- The first branch whose condition holds, or the last list. -/
  | branch (branches : List (Expr × List Stmt)) (otherwise : List Stmt)
  | loop (target : Target) (iter : Expr) (test : Option Expr) (recursive : Bool)
      (body otherwise : List Stmt)
  | assign (target : Target) (e : Expr)
  /-- The text of the body, after the filters, becomes the value. -/
  | assignBlock (target : Target) (filters : List FilterCall) (body : List Stmt)
  | scope (bindings : List (Target × Expr)) (body : List Stmt)
  /-- A named, parametrised body. -/
  | define (name : String) (params : Params) (body : List Stmt)
  /-- A call that is handed a parametrised body. -/
  | callWith (params : Params) (f : Expr) (args : Args) (body : List Stmt)
  | filterBlock (filters : List FilterCall) (body : List Stmt)
  /-- A named section; it sees the names around it only if it inherits them. A required one has to
  be filled by another template. -/
  | block (name : String) (inherits required : Bool) (body : List Stmt)
  /-- A body in which printed values are escaped, if the condition holds; `settled` tells whether it
  does, where that is known before rendering. -/
  | escaping (condition : Expr) (settled : Option Bool) (body : List Stmt)
  /-- The text of another template, which may be missing if that is allowed for. -/
  | embed (e : Expr) (mayMiss : Bool)
  /-- The names of another template. -/
  | borrow (e : Expr) (names : List String)
  /-- The rest of the template fills the sections of another one. -/
  | extend (e : Expr)
deriving Inhabited

/-! ### What is inside -/

mutual

/-- What `f` finds in an expression and in all expressions inside it. -/
def Expr.gather {α : Type} (f : Expr → List α) (e : Expr) : List α :=
  f e ++ match e with
    | .const _ | .name _ => []
    | .list items | .tuple items | .concat items => gatherAll f items
    | .dict entries => gatherEntries f entries
    | .attr e _ | .not e | .neg e | .pos e => e.gather f
    | .item e k => e.gather f ++ k.gather f
    | .slice e a b c => e.gather f ++ a.gather f ++ b.gather f ++ c.gather f
    | .bounds a b c => a.gather f ++ b.gather f ++ c.gather f
    | .call e args | .filter e _ args | .test e _ args => e.gather f ++ gatherArgs f args
    | .binary _ a b | .and a b | .or a b => a.gather f ++ b.gather f
    | .compare e rest => e.gather f ++ gatherCompares f rest
    | .cond c y none => c.gather f ++ y.gather f
    | .cond c y (some n) => c.gather f ++ y.gather f ++ n.gather f

/-- What `f` finds in several expressions. -/
def gatherAll {α : Type} (f : Expr → List α) : List Expr → List α
  | [] => []
  | e :: es => e.gather f ++ gatherAll f es

/-- What `f` finds in the entries of an object. -/
def gatherEntries {α : Type} (f : Expr → List α) : List (Expr × Expr) → List α
  | [] => []
  | (k, e) :: es => k.gather f ++ e.gather f ++ gatherEntries f es

/-- What `f` finds in arguments. -/
def gatherArgs {α : Type} (f : Expr → List α) : List (ArgKind × Expr) → List α
  | [] => []
  | (_, e) :: es => e.gather f ++ gatherArgs f es

/-- What `f` finds in a chain of comparisons. -/
def gatherCompares {α : Type} (f : Expr → List α) : List (CompareOp × Expr) → List α
  | [] => []
  | (_, e) :: es => e.gather f ++ gatherCompares f es

end

mutual

/-- What `f` finds in a statement and in all statements inside it. -/
def Stmt.gather {α : Type} (f : Stmt → List α) (s : Stmt) : List α :=
  f s ++ match s with
    | .branch branches otherwise => branchesGather f branches ++ stmtsGather f otherwise
    | .loop _ _ _ _ body otherwise => stmtsGather f body ++ stmtsGather f otherwise
    | .assignBlock _ _ body | .scope _ body | .define _ _ body | .callWith _ _ _ body
    | .filterBlock _ body | .block _ _ _ body | .escaping _ _ body => stmtsGather f body
    | _ => []

/-- What `f` finds in several statements. -/
def stmtsGather {α : Type} (f : Stmt → List α) : List Stmt → List α
  | [] => []
  | s :: ss => s.gather f ++ stmtsGather f ss

/-- What `f` finds in branches. -/
def branchesGather {α : Type} (f : Stmt → List α) : List (Expr × List Stmt) → List α
  | [] => []
  | (_, body) :: bs => stmtsGather f body ++ branchesGather f bs

end

/-- The expressions that the arguments of filters consist of. -/
def filterExprs (fs : List FilterCall) : List Expr := fs.flatMap fun f => f.2.map Prod.snd

/-- The expressions of a statement itself, not those of the statements inside it. -/
def Stmt.exprs : Stmt → List Expr
  | .text _ | .mention _ => []
  | .print e | .assign _ e | .escaping e _ _ | .embed e _ | .borrow e _ | .extend e => [e]
  | .branch branches _ => branches.map Prod.fst
  | .loop _ iter test _ _ _ => iter :: test.toList
  | .assignBlock _ fs _ | .filterBlock fs _ => filterExprs fs
  | .scope bindings _ => bindings.map Prod.snd
  | .define _ params _ => params.filterMap Prod.snd
  | .callWith params f args _ => params.filterMap Prod.snd ++ f :: args.map Prod.snd
  | .block _ _ _ _ => []

end WizardLogic.Template
