import WizardLogic.Template.Operator
import WizardLogic.Template.Scoping

/-!
# Evaluation of expressions

Expressions have values, by recursion on their structure; what calls, filters and tests yield is
one of the `Powers` that the evaluation is given.

The arguments of a call are evaluated in the order: those by position, the elements of a spread
collection, those by name, and the entries of a spread object.
-/

namespace WizardLogic.Template

open Render

/-! ### Constants -/

mutual

/-- Whether a constant can be written down: infinities, and what is not a number, have no
notation. -/
def Const.isNotable : Const → Bool
  | .float d => d.isFinite
  | .complex z => z.re.isFinite && z.im.isFinite
  | .list items => areNotable items
  | .tuple items => areNotable items
  | .dict entries => entriesNotable entries
  | _ => true

/-- Whether several constants can be written down. -/
def areNotable : List Const → Bool
  | [] => true
  | c :: cs => c.isNotable && areNotable cs

/-- Whether the keys and values of constant entries can be written down. -/
def entriesNotable : List (Const × Const) → Bool
  | [] => true
  | (k, c) :: es => k.isNotable && c.isNotable && entriesNotable es

end

/-- The value of a constant in an expression. One without a notation is a name without a value. -/
def constValue (c : Const) : Render Val :=
  if c.isNotable then ofConst c else fail (.fault .unboundName)

/-! ### Arguments -/

/-- Words that no argument can be named by in a plain call. Where one is, the named arguments are
collected in an object first, in which the last one of a name counts. -/
def reservedWords : List String :=
  ["False", "None", "True", "and", "as", "assert", "async", "await", "break", "class", "continue",
   "def", "del", "elif", "else", "except", "finally", "for", "from", "global", "if", "import",
   "in", "is", "lambda", "nonlocal", "not", "or", "pass", "raise", "return", "try", "while",
   "with", "yield"]

/-- The names of the arguments that have one. -/
def argumentNames (args : Args) : List String :=
  args.filterMap fun (k, _) =>
    match k with
    | .named n => some n
    | _ => none

/-- Whether named arguments are collected in an object first. -/
def collectsNamed (args : Args) : Bool := (argumentNames args).any reservedWords.contains

/-- Named values with further ones; of two with one name the last counts, in the place of the
first. -/
def mergeNamed (es more : List (String × Val)) : List (String × Val) :=
  more.foldl (fun acc (n, v) =>
    if acc.any fun e => e.1 = n then acc.map fun e => if e.1 = n then (n, v) else e
    else acc ++ [(n, v)]) es

/-- The entries of an object as named arguments; all keys have to be text. -/
def namedEntries (v : Val) : Render (List (String × Val)) := do
  match v with
  | .cell .dict id =>
    (← dictEntries id).mapM fun (k, v) =>
      match k.text? with
      | some n => pure (n, v)
      | none => invalid
  | _ => invalid

/-- The arguments of a call, given those by position and by name and the spread object. Unless the
named ones are collected first, no name may be given twice. -/
def callArgs (collects : Bool) (positional : List Val) (named : List (String × Val))
    (spread : Option Val) : Render CallArgs := do
  let more ← match spread with
    | some v => namedEntries v
    | none => pure []
  let distinct := decide ((named ++ more).map Prod.fst).Nodup
  if collects then return ⟨positional, mergeNamed (mergeNamed [] named) more⟩
  else if distinct then return ⟨positional, named ++ more⟩
  else invalid

/-! ### Expressions -/

mutual

/-- **The value of an expression.** -/
def evalExpr (p : Powers) (env : Env) : Expr → Render Val
  | .const c => constValue c
  | .name n => readName env n
  | .list items => do newList (← evalItems p env items)
  | .tuple items => do return .tuple (← evalItems p env items)
  | .dict entries => do
    let pairs ← evalEntries p env entries
    if pairs.all fun e => e.1.isHashable then newDict (Val.insertAll pairs []) else invalid
  | .attr e name => do getMember p (← evalExpr p env e) name
  | .item e key => do
    let v ← evalExpr p env e
    getItem p v (← evalExpr p env key)
  | .slice e start stop step => do
    let v ← evalExpr p env e
    let a ← evalExpr p env start
    let b ← evalExpr p env stop
    let c ← evalExpr p env step
    getSlice v a b c
  | .bounds _ _ _ => invalid
  | .call f args => do
    let g ← evalExpr p env f
    p.call g (← evalArgs p env args [])
  | .filter e name args => do
    let v ← evalExpr p env e
    p.filter name v (← evalArgs p env args [])
  | .test e name args => do
    let v ← evalExpr p env e
    return .bool (← p.test name v (← evalArgs p env args []))
  | .not e => do return .bool !(← isTrue (← evalExpr p env e))
  | .neg e => do ofOutcome (applySign true (← evalExpr p env e))
  | .pos e => do ofOutcome (applySign false (← evalExpr p env e))
  | .binary op left right => do
    let a ← evalExpr p env left
    let b ← evalExpr p env right
    applyBinary p op a b
  | .and left right => do
    let a ← evalExpr p env left
    if ← isTrue a then evalExpr p env right else return a
  | .or left right => do
    let a ← evalExpr p env left
    if ← isTrue a then return a else evalExpr p env right
  | .concat items => do
    joinTexts (env.escape.on && !env.escape.depends) (← evalItems p env items)
  | .compare first rest => do
    let a ← evalExpr p env first
    return .bool (← evalCompares p env a rest)
  | .cond condition yes none => do
    let c ← evalExpr p env condition
    if ← isTrue c then evalExpr p env yes else return .undefined
  | .cond condition yes (some no) => do
    let c ← evalExpr p env condition
    if ← isTrue c then evalExpr p env yes else evalExpr p env no

/-- The values of several expressions. -/
def evalItems (p : Powers) (env : Env) : List Expr → Render (List Val)
  | [] => pure []
  | e :: es => do
    let v ← evalExpr p env e
    let vs ← evalItems p env es
    return v :: vs

/-- The values of the keys and values of an object. -/
def evalEntries (p : Powers) (env : Env) : List (Expr × Expr) → Render (List (Val × Val))
  | [] => pure []
  | (k, e) :: es => do
    let key ← evalExpr p env k
    let v ← evalExpr p env e
    let vs ← evalEntries p env es
    return (key, v) :: vs

/-- The values of the arguments by position, the elements of a spread collection among them. -/
def evalPositional (p : Powers) (env : Env) : Args → Render (List Val)
  | [] => pure []
  | (.positional, e) :: es => do
    let v ← evalExpr p env e
    let vs ← evalPositional p env es
    return v :: vs
  | (.spread, e) :: es => do
    let xs ← elements p (← evalExpr p env e)
    let vs ← evalPositional p env es
    return xs ++ vs
  | (_, _) :: es => evalPositional p env es

/-- The values of the arguments by name. -/
def evalNamed (p : Powers) (env : Env) : Args → Render (List (String × Val))
  | [] => pure []
  | (.named n, e) :: es => do
    let v ← evalExpr p env e
    let vs ← evalNamed p env es
    return (n, v) :: vs
  | (_, _) :: es => evalNamed p env es

/-- The value of the spread object, if there is one. -/
def evalSpread (p : Powers) (env : Env) : Args → Render (Option Val)
  | [] => pure none
  | (.spreadNamed, e) :: _ => do return some (← evalExpr p env e)
  | (_, _) :: es => evalSpread p env es

/-- The arguments of a call; further named ones stand behind those that are written. -/
def evalArgs (p : Powers) (env : Env) (args : Args) (further : List (String × Val)) :
    Render CallArgs := do
  let positional ← evalPositional p env args
  let named ← evalNamed p env args
  callArgs (collectsNamed args) positional (named ++ further) (← evalSpread p env args)

/-- Whether every comparison of a chain holds, up to the first that does not. -/
def evalCompares (p : Powers) (env : Env) (left : Val) :
    List (CompareOp × Expr) → Render Bool
  | [] => pure true
  | (op, e) :: rest => do
    let right ← evalExpr p env e
    if ← compareVals p op left right then evalCompares p env right rest else return false

end

end WizardLogic.Template
