import WizardLogic.Template.Ast

/-!
# Names in templates

Names are resolved scope by scope. When a scope is entered, every name that its statements mention
is settled at once: a name that is read before the scope assigns it starts with the value it has
outside, or was given with; a name that the scope assigns first starts without a value, unless a
scope outside knows it; a name that only some branch assigns starts like one that is read. Inner
scopes (the bodies of loops, definitions and blocks) are not looked into; they settle their own
names when they are entered.

`Origins.ofBody` computes where each name of a scope starts from, and `undeclared` which of some
special names a body reads without assigning them first.
-/

namespace WizardLogic.Template

mutual

/-- The names that an expression reads. -/
def exprNames : Expr → List String
  | .const _ => []
  | .name n => [n]
  | .list items => exprsNames items
  | .tuple items => exprsNames items
  | .dict entries => entriesNames entries
  | .attr e _ => exprNames e
  | .item e k => exprNames e ++ exprNames k
  | .slice e a b c => exprNames e ++ exprNames a ++ exprNames b ++ exprNames c
  | .bounds a b c => exprNames a ++ exprNames b ++ exprNames c
  | .call f args => exprNames f ++ argsNames args
  | .filter e _ args => exprNames e ++ argsNames args
  | .test e _ args => exprNames e ++ argsNames args
  | .not e => exprNames e
  | .neg e => exprNames e
  | .pos e => exprNames e
  | .binary _ a b => exprNames a ++ exprNames b
  | .and a b => exprNames a ++ exprNames b
  | .or a b => exprNames a ++ exprNames b
  | .concat items => exprsNames items
  | .compare e rest => exprNames e ++ comparesNames rest
  | .cond c y none => exprNames c ++ exprNames y
  | .cond c y (some n) => exprNames c ++ exprNames y ++ exprNames n

/-- The names that several expressions read. -/
def exprsNames : List Expr → List String
  | [] => []
  | e :: es => exprNames e ++ exprsNames es

/-- The names that the entries of an object read. -/
def entriesNames : List (Expr × Expr) → List String
  | [] => []
  | (k, v) :: es => exprNames k ++ exprNames v ++ entriesNames es

/-- The names that arguments read. -/
def argsNames : List (ArgKind × Expr) → List String
  | [] => []
  | (_, e) :: es => exprNames e ++ argsNames es

/-- The names that a chain of comparisons reads. -/
def comparesNames : List (CompareOp × Expr) → List String
  | [] => []
  | (_, e) :: es => exprNames e ++ comparesNames es

end

/-- The names that filters read. -/
def filtersNames (fs : List FilterCall) : List String := fs.flatMap fun f => argsNames f.2

/-- The names that the defaults of parameters read. -/
def defaultsNames (ps : List (String × Option Expr)) : List String :=
  ps.flatMap fun p => (p.2.map exprNames).getD []

mutual

/-- The names that a target assigns. -/
def targetNames : Target → List String
  | .name n => [n]
  | .member _ _ => []
  | .tuple ts => targetsNames ts

/-- The names that several targets assign. -/
def targetsNames : List Target → List String
  | [] => []
  | t :: ts => targetNames t ++ targetsNames ts

end

mutual

/-- The namespace objects that a target writes to. -/
def targetSpaces : Target → List String
  | .name _ => []
  | .member s _ => [s]
  | .tuple ts => targetsSpaces ts

/-- The namespace objects that several targets write to. -/
def targetsSpaces : List Target → List String
  | [] => []
  | t :: ts => targetSpaces t ++ targetsSpaces ts

end

/-! ### Special names -/

/-- A name that a statement mentions. -/
inductive Mention
  | read (n : String)
  | assigned (n : String)

/-- Names that are read. -/
def readings (ns : List String) : List Mention := ns.map .read

/-- Names that are assigned. -/
def assignments (ns : List String) : List Mention := ns.map .assigned

mutual

/-- The names that a statement mentions, inner scopes included, named sections left out. -/
def stmtMentions : Stmt → List Mention
  | .text _ => []
  | .mention ns => readings ns
  | .print e => readings (exprNames e)
  | .branch bs els => branchesMention bs ++ stmtsMention els
  | .loop t iter test _ body els =>
    assignments (targetNames t) ++ readings (exprNames iter) ++ stmtsMention body ++
      stmtsMention els ++ readings ((test.map exprNames).getD [])
  | .assign t e => assignments (targetNames t) ++ readings (exprNames e)
  | .assignBlock t fs body =>
    assignments (targetNames t) ++ readings (filtersNames fs) ++ stmtsMention body
  | .scope bs body =>
    assignments (bs.flatMap fun b => targetNames b.1) ++
      readings (bs.flatMap fun b => exprNames b.2) ++ stmtsMention body
  | .define _ ps body =>
    assignments (ps.map Prod.fst) ++ readings (defaultsNames ps) ++ stmtsMention body
  | .callWith ps f args body =>
    readings (exprNames f ++ argsNames args) ++ assignments (ps.map Prod.fst) ++
      readings (defaultsNames ps) ++ stmtsMention body
  | .filterBlock fs body => stmtsMention body ++ readings (filtersNames fs)
  | .block _ _ _ _ => []
  | .escaping e _ body => readings (exprNames e) ++ stmtsMention body
  | .embed e _ => readings (exprNames e)
  | .borrow e _ => readings (exprNames e)
  | .extend e => readings (exprNames e)

/-- The names that several statements mention. -/
def stmtsMention : List Stmt → List Mention
  | [] => []
  | s :: ss => stmtMentions s ++ stmtsMention ss

/-- The names that branches mention. -/
def branchesMention : List (Expr × List Stmt) → List Mention
  | [] => []
  | (c, body) :: bs => readings (exprNames c) ++ stmtsMention body ++ branchesMention bs

end

/-- Which of some names a body reads before it assigns them. -/
def undeclared (names : List String) (body : List Stmt) : List String :=
  let step (acc : List String × List String) (m : Mention) : List String × List String :=
    match m with
    | .read n => if acc.1.contains n then (acc.1, n :: acc.2) else acc
    | .assigned n => (acc.1.filter (· != n), acc.2)
  let (_, found) := (stmtsMention body).foldl step (names, [])
  names.filter found.contains

/-! ### Where names start from -/

/-- Where a name of a scope starts from. -/
inductive Origin
  /-- The names given to the template. -/
  | given
  /-- The value in the scopes outside. -/
  | outer
  /-- Nowhere: it has no value until it is assigned. -/
  | nowhere
  /-- It is set when the scope is entered. -/
  | parameter
deriving DecidableEq, Repr

/-- What is known about the names of a scope so far. -/
structure Origins where
  /-- The names and where they start from. -/
  names : List (String × Origin)
  /-- The names that have been assigned. -/
  stored : List String

namespace Origins

/-- Nothing is known yet. -/
def empty : Origins := ⟨[], []⟩

/-- Sets where a name starts from. -/
def put (n : String) (o : Origin) : List (String × Origin) → List (String × Origin)
  | [] => [(n, o)]
  | (m, p) :: rest => if m = n then (n, o) :: rest else (m, p) :: put n o rest

/-- Whether the scope itself knows a name. -/
def knows (o : Origins) (n : String) : Bool := (o.names.lookup n).isSome

/-- A name is read. -/
def read (outside : String → Bool) (n : String) (o : Origins) : Origins :=
  if o.knows n || outside n then o else { o with names := put n .given o.names }

/-- A name is assigned. -/
def store (outside : String → Bool) (n : String) (o : Origins) : Origins :=
  let names :=
    if o.knows n then o.names
    else put n (if outside n then .outer else .nowhere) o.names
  ⟨names, n :: o.stored⟩

/-- A name is a parameter. -/
def declare (n : String) (o : Origins) : Origins := ⟨put n .parameter o.names, n :: o.stored⟩

/-- Several names are read. -/
def readAll (outside : String → Bool) (ns : List String) (o : Origins) : Origins :=
  ns.foldl (fun o n => read outside n o) o

/-- What is known after one of several branches has been taken: a name that only a branch assigns
starts like one that is read. -/
def join (outside : String → Bool) (o : Origins) (branches : List Origins) : Origins :=
  let fresh := (branches.flatMap Origins.stored).filter fun n => !o.stored.contains n
  let names := branches.foldl (fun acc b => b.names.foldl (fun acc (n, p) => put n p acc) acc)
    o.names
  let names := fresh.foldl (fun acc n => put n (if outside n then .outer else .given) acc) names
  ⟨names, fresh ++ o.stored⟩

mutual

/-- What a statement adds. -/
def visit (outside : String → Bool) : Stmt → Origins → Origins
  | .text _, o => o
  | .mention ns, o => o.readAll outside ns
  | .print e, o => o.readAll outside (exprNames e)
  | .branch bs els, o => visitBranches outside true bs (fun o => visitAll outside els o) o
  | .loop _ iter _ _ _ _, o => o.readAll outside (exprNames iter)
  | .assign t e, o =>
    let o := o.readAll outside (exprNames e)
    (targetNames t).foldl (fun o n => store outside n o) (o.readAll outside (targetSpaces t))
  | .assignBlock t _ _, o =>
    (targetNames t).foldl (fun o n => store outside n o) (o.readAll outside (targetSpaces t))
  | .scope bs _, o => o.readAll outside (bs.flatMap fun b => exprNames b.2)
  | .define n _ _, o => store outside n o
  | .callWith _ f args _, o => o.readAll outside (exprNames f ++ argsNames args)
  | .filterBlock fs _, o => o.readAll outside (filtersNames fs)
  | .block _ _ _ _, o => o
  | .escaping _ _ _, o => o
  | .embed e _, o => o.readAll outside (exprNames e)
  | .borrow e ns, o =>
    ns.foldl (fun o n => store outside n o) (o.readAll outside (exprNames e))
  | .extend e, o => o.readAll outside (exprNames e)

/-- What several statements add. -/
def visitAll (outside : String → Bool) : List Stmt → Origins → Origins
  | [], o => o
  | s :: ss, o => visitAll outside ss (visit outside s o)

/-- What the branches of a condition add. The branches behind the first one count as one branch, in
which they stand one after the other as conditions of their own. -/
def visitBranches (outside : String → Bool) (isFirst : Bool) :
    List (Expr × List Stmt) → (Origins → Origins) → Origins → Origins
  | [], otherwise, o => if isFirst then otherwise o else o
  | (c, body) :: rest, otherwise, o =>
    let o := o.readAll outside (exprNames c)
    let yes := visitAll outside body o
    if isFirst then join outside o [yes, visitBranches outside false rest id o, otherwise o]
    else visitBranches outside false rest id (join outside o [yes])

end

/-- Where the names of a scope start from that has the parameters, first reads the names, and then
executes the statements. -/
def ofBody (outside : String → Bool) (params reads : List String) (body : List Stmt) : Origins :=
  visitAll outside body
    ((params.foldl (fun o n => declare n o) empty).readAll outside reads)

/-! ### The scopes that statements enter -/

/-- The names that hand something over to a definition without being declared. -/
def specialNames : List String := ["caller", "kwargs", "varargs"]

/-- The special names that a definition's body reads. Collections of what is left over are not handed
over under a declared name. -/
def specialsOf (params : Params) (body : List Stmt) : List String :=
  (undeclared specialNames body).filter fun n =>
    n = "caller" || !(params.map Prod.fst).contains n

/-- Whether a statement contains a named section that inherits names. -/
def hasInheriting (ss : List Stmt) : Bool :=
  !(stmtsGather (fun s => match s with
    | .block _ true _ _ => [()]
    | _ => []) ss).isEmpty

/-- Whether a loop has to keep its state: it may be called again, its body asks for the state, or a
section inside inherits it. -/
def keepsState (recursive : Bool) (body otherwise : List Stmt) : Bool :=
  recursive || !(undeclared ["loop"] body).isEmpty || hasInheriting body ||
    hasInheriting otherwise

/-- The scope of a loop's body. -/
def ofLoop (outside : String → Bool) (stateful : Bool) (target : Target) (body : List Stmt) :
    Origins :=
  ofBody outside ((if stateful then ["loop"] else []) ++ targetNames target) [] body

/-- The scope of a loop's condition. -/
def ofTest (outside : String → Bool) (target : Target) (test : Expr) : Origins :=
  ofBody outside (targetNames target) (exprNames test) []

/-- The scope of a body with bindings. -/
def ofBindings (outside : String → Bool) (bindings : List (Target × Expr)) (body : List Stmt) :
    Origins :=
  ofBody outside (bindings.flatMap fun b => targetNames b.1) [] body

/-- The scope of a definition's body. -/
def ofDefinition (outside : String → Bool) (params : Params) (body : List Stmt) : Origins :=
  ofBody outside (params.map Prod.fst ++ specialsOf params body) (defaultsNames params) body

/-- The scope of a captured body with filters behind it. -/
def ofFiltered (outside : String → Bool) (fs : List FilterCall) (body : List Stmt) : Origins :=
  (ofBody outside [] [] body).readAll outside (filtersNames fs)

/-- The scope of a named section, or of the whole template, in which some names refer to
sections. -/
def ofSection (references : List String) (body : List Stmt) : Origins :=
  ofBody (fun _ => false) (undeclared references body) [] body

end Origins

end WizardLogic.Template
