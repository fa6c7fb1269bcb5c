import WizardLogic.Template.Eval
import WizardLogic.Template.Test

/-!
# What is checked before rendering

A template is checked as a whole before any of it is rendered (`check`), after what is known in it
has been reduced to constants.

It is **sound** if every filter and test that is named exists, where only inside a condition an
unknown one may stand, which fails when it is reached; the bodies of loops and definitions inside a
condition are held to the rule again. No loop may assign the name `loop`, no two sections may have
one name, only the template itself may extend another one, a definition that asks for the body
handed to it must not demand it as a parameter, and every integer must have a text.

The filters of a captured text must read only names that the surroundings know. And nothing must be
given twice, loops must not be nested too deeply, and the bounds of a slice must be the only key.
-/

namespace WizardLogic.Template

/-! ### Filters and tests -/

mutual

/-- Whether an expression names only known filters and tests, `lenient` conditions aside. -/
def exprSound (lenient : Bool) : Expr → Bool
  | .const _ => true
  | .name _ => true
  | .list items => exprsSound lenient items
  | .tuple items => exprsSound lenient items
  | .dict entries => entriesSound lenient entries
  | .attr e _ => exprSound lenient e
  | .item e k => exprSound lenient e && exprSound lenient k
  | .slice e a b c =>
    exprSound lenient e && exprSound lenient a && exprSound lenient b && exprSound lenient c
  | .bounds a b c => exprSound lenient a && exprSound lenient b && exprSound lenient c
  | .call f args => exprSound lenient f && argsSound lenient args
  | .filter e n args =>
    (lenient || filterNames.contains n) && exprSound lenient e && argsSound lenient args
  | .test e n args =>
    (lenient || testNames.contains n) && exprSound lenient e && argsSound lenient args
  | .not e => exprSound lenient e
  | .neg e => exprSound lenient e
  | .pos e => exprSound lenient e
  | .binary _ a b => exprSound lenient a && exprSound lenient b
  | .and a b => exprSound lenient a && exprSound lenient b
  | .or a b => exprSound lenient a && exprSound lenient b
  | .concat items => exprsSound lenient items
  | .compare e rest => exprSound lenient e && comparesSound lenient rest
  | .cond c y none => exprSound true c && exprSound true y
  | .cond c y (some n) => exprSound true c && exprSound true y && exprSound true n

/-- The check for several expressions. -/
def exprsSound (lenient : Bool) : List Expr → Bool
  | [] => true
  | e :: es => exprSound lenient e && exprsSound lenient es

/-- The check for the entries of an object. -/
def entriesSound (lenient : Bool) : List (Expr × Expr) → Bool
  | [] => true
  | (k, v) :: es => exprSound lenient k && exprSound lenient v && entriesSound lenient es

/-- The check for arguments. -/
def argsSound (lenient : Bool) : List (ArgKind × Expr) → Bool
  | [] => true
  | (_, e) :: es => exprSound lenient e && argsSound lenient es

/-- The check for a chain of comparisons. -/
def comparesSound (lenient : Bool) : List (CompareOp × Expr) → Bool
  | [] => true
  | (_, e) :: es => exprSound lenient e && comparesSound lenient es

end

/-- The check for filters of a captured text. -/
def filtersSound (fs : List FilterCall) : Bool :=
  fs.all fun f => filterNames.contains f.1 && argsSound false f.2

/-- The check for the defaults of parameters. -/
def paramsSound (ps : Params) : Bool := exprsSound false (ps.filterMap Prod.snd)

mutual

/-- Whether a statement names only known filters and tests, `lenient` conditions aside. -/
def stmtSound (lenient : Bool) : Stmt → Bool
  | .text _ => true
  | .mention _ => true
  | .print e => exprSound lenient e
  | .branch bs els => branchesSound bs && stmtsSound true els
  | .loop _ iter test _ body els =>
    exprSound lenient iter && exprsSound false test.toList && stmtsSound false body &&
      stmtsSound false els
  | .assign _ e => exprSound lenient e
  | .assignBlock _ fs body => filtersSound fs && stmtsSound false body
  | .scope bs body => exprsSound lenient (bs.map Prod.snd) && stmtsSound false body
  | .define _ ps body => paramsSound ps && stmtsSound false body
  | .callWith ps f args body =>
    exprSound lenient f && argsSound lenient args && paramsSound ps && stmtsSound false body
  | .filterBlock fs body => filtersSound fs && stmtsSound false body
  | .block _ _ _ body => stmtsSound false body
  | .escaping c _ body => exprSound false c && stmtsSound false body
  | .embed e _ => exprSound lenient e
  | .borrow e _ => exprSound lenient e
  | .extend e => exprSound lenient e

/-- Whether several statements do. -/
def stmtsSound (lenient : Bool) : List Stmt → Bool
  | [] => true
  | s :: ss => stmtSound lenient s && stmtsSound lenient ss

/-- Whether branches do, all of them conditions. -/
def branchesSound : List (Expr × List Stmt) → Bool
  | [] => true
  | (c, body) :: bs => exprSound true c && stmtsSound true body && branchesSound bs

end

/-! ### Names and places -/

/-- The names that a statement itself assigns. -/
def Stmt.assigned : Stmt → List String
  | .loop t _ _ _ _ _ | .assign t _ | .assignBlock t _ _ => targetNames t
  | _ => []

/-- Whether a loop assigns the name of its state, if the statement is one. -/
def assignsState (s : Stmt) : Bool :=
  match s with
  | .loop _ _ _ _ _ _ => (s.gather Stmt.assigned).contains "loop"
  | _ => false

/-- Whether a definition demands the body handed to it, if the statement is one. -/
def demandsCaller (s : Stmt) : Bool :=
  let demands (params : Params) (body : List Stmt) : Bool :=
    params.any (fun p => p.1 = "caller" && p.2.isNone) &&
      !(undeclared ["caller"] body).isEmpty
  match s with
  | .define _ params body | .callWith params _ _ body => demands params body
  | _ => false

/-- The names of the named sections in a statement itself. -/
def Stmt.sections : Stmt → List (String × Block)
  | .block name _ required body => [(name, ⟨required, body⟩)]
  | _ => []

/-- Whether a statement extends another template. -/
def Stmt.extendsOther : Stmt → Bool
  | .extend _ => true
  | _ => false

mutual

/-- Whether a statement of the template itself, or of its conditions, has inside it a statement that
extends another template. -/
def misplaces : Stmt → Bool
  | .extend _ => false
  | .branch bs els => branchesMisplace bs || anyMisplaces els
  | s => (s.gather fun s => [s.extendsOther]).contains true

/-- Whether one of several statements has. -/
def anyMisplaces : List Stmt → Bool
  | [] => false
  | s :: ss => misplaces s || anyMisplaces ss

/-- Whether a branch has. -/
def branchesMisplace : List (Expr × List Stmt) → Bool
  | [] => false
  | (_, body) :: bs => anyMisplaces body || branchesMisplace bs

end

mutual

/-- Whether all integers in a constant have a text. -/
def Const.hasText : Const → Bool
  | .int n => n.natAbs < Image.intTextLimit
  | .list items => constsHaveText items
  | .tuple items => constsHaveText items
  | .dict entries => constEntriesHaveText entries
  | _ => true

/-- Whether all integers in several constants have. -/
def constsHaveText : List Const → Bool
  | [] => true
  | c :: cs => c.hasText && constsHaveText cs

/-- Whether all integers in the keys and values of an object have. -/
def constEntriesHaveText : List (Const × Const) → Bool
  | [] => true
  | (k, c) :: es => k.hasText && c.hasText && constEntriesHaveText es

end

/-- Whether all integers that are written in an expression itself have a text. -/
def isWritable (e : Expr) : Bool :=
  match e with
  | .const c => c.hasText
  | _ => true

/-- The expressions in statements, with those inside them. -/
def allExprs (body : List Stmt) : List Expr :=
  (stmtsGather Stmt.exprs body).flatMap (Expr.gather fun e => [e])

/-- **Whether a template is sound.** -/
def isSound (body : List Stmt) : Bool :=
  let all := stmtsGather (fun s => [s]) body
  stmtsSound false body && !anyMisplaces body && !all.any assignsState &&
    !all.any demandsCaller && decide ((all.flatMap Stmt.sections).map Prod.fst).Nodup &&
    (allExprs body).all isWritable

/-! ### The filters of captured texts -/

mutual

/-- Whether the filters of captured texts in a statement read only names that are known around
it. -/
def filtersKnown (known : List String) : Stmt → Bool
  | .branch bs els => branchesFiltersKnown known bs && allFiltersKnown known els
  | .loop target _ _ recursive body els =>
    let stateful := Origins.keepsState recursive body els
    allFiltersKnown (inside known fun o => Origins.ofLoop o stateful target body) body &&
      allFiltersKnown (inside known fun o => Origins.ofBody o [] [] els) els
  | .assignBlock _ fs body =>
    let known := inside known fun o => Origins.ofBody o [] [] body
    (filtersNames fs).all known.contains && allFiltersKnown known body
  | .scope bs body =>
    allFiltersKnown (inside known fun o => Origins.ofBindings o bs body) body
  | .define _ ps body =>
    allFiltersKnown (inside known fun o => Origins.ofDefinition o ps body) body
  | .callWith ps _ _ body =>
    allFiltersKnown (inside known fun o => Origins.ofDefinition o ps body) body
  | .filterBlock fs body =>
    allFiltersKnown (inside known fun o => Origins.ofFiltered o fs body) body
  | .block _ _ _ body =>
    allFiltersKnown (inside [] fun _ => Origins.ofSection ["self", "super"] body) body
  | .escaping c _ body =>
    allFiltersKnown (inside known fun o => Origins.ofBody o [] (exprNames c) body) body
  | _ => true
where
  /-- The names that are known inside a scope. -/
  inside (known : List String) (origins : (String → Bool) → Origins) : List String :=
    (origins fun n => known.contains n).names.map Prod.fst ++ known

/-- Whether those of several statements do. -/
def allFiltersKnown (known : List String) : List Stmt → Bool
  | [] => true
  | s :: ss => filtersKnown known s && allFiltersKnown known ss

/-- Whether those of branches do. -/
def branchesFiltersKnown (known : List String) : List (Expr × List Stmt) → Bool
  | [] => true
  | (_, body) :: bs => allFiltersKnown known body && branchesFiltersKnown known bs

end

/-! ### Form -/

/-- Whether no argument is given twice by name. -/
def givesOnce (args : Args) (further : List String) : Bool :=
  collectsNamed args || decide (argumentNames args ++ further).Nodup

/-- Whether an expression itself can be carried out: no argument is given twice, and no bounds of a
slice stand among other keys. -/
def exprWellFormed (e : Expr) : Bool :=
  match e with
  | .call _ args | .filter _ _ args | .test _ _ args => givesOnce args []
  | .bounds _ _ _ => false
  | _ => true

/-- Whether a statement itself can be carried out: no argument and no parameter is given twice. -/
def stmtWellFormed (s : Stmt) : Bool :=
  match s with
  | .define _ params _ => decide (params.map Prod.fst).Nodup
  | .callWith params _ args _ =>
    decide (params.map Prod.fst).Nodup && givesOnce args ["caller"]
  | .assignBlock _ fs _ | .filterBlock fs _ => fs.all fun f => givesOnce f.2 []
  | _ => true

/-- How deeply loops may be nested inside one another in one definition, section or loop that may be
called again. -/
def maxNesting : Nat := 20

mutual

/-- Whether the loops in a statement are not nested too deeply, given how deeply the statement
stands. -/
def loopsFit (depth : Nat) : Stmt → Bool
  | .branch bs els => branchesLoopsFit depth bs && allLoopsFit depth els
  | .loop _ _ _ true body els => allLoopsFit 1 body && allLoopsFit 0 els
  | .loop _ _ _ false body els =>
    depth < maxNesting && allLoopsFit (depth + 1) body && allLoopsFit depth els
  | .assignBlock _ _ body => allLoopsFit depth body
  | .scope _ body => allLoopsFit depth body
  | .define _ _ body => allLoopsFit 0 body
  | .callWith _ _ _ body => allLoopsFit 0 body
  | .filterBlock _ body => allLoopsFit depth body
  | .block _ _ _ body => allLoopsFit 0 body
  | .escaping _ _ body => allLoopsFit depth body
  | _ => true

/-- Whether those in several statements are not. -/
def allLoopsFit (depth : Nat) : List Stmt → Bool
  | [] => true
  | s :: ss => loopsFit depth s && allLoopsFit depth ss

/-- Whether those in branches are not. -/
def branchesLoopsFit (depth : Nat) : List (Expr × List Stmt) → Bool
  | [] => true
  | (_, body) :: bs => allLoopsFit depth body && branchesLoopsFit depth bs

end

/-- Whether a template can be carried out. -/
def isWellFormed (body : List Stmt) : Bool :=
  (stmtsGather (fun s => [stmtWellFormed s]) body).all id &&
    (allExprs body).all exprWellFormed && allLoopsFit 0 body

/-- **The first thing that is wrong with a template,** if anything is. -/
def check (body : List Stmt) : Except Failure Unit :=
  let known := (Origins.ofSection ["self"] body).names.map Prod.fst
  if !isSound body then invalid
  else if !allFiltersKnown known body then .error (.fault .assertion)
  else if !isWellFormed body then .error (.fault .malformed)
  else .ok ()

end WizardLogic.Template
