import WizardLogic.Template.Eval
import WizardLogic.Template.Output

/-!
# Carrying out statements

Statements write texts and give names values, by recursion on their structure; what calls, filters
and tests do is one of the `Powers` that they are given.

A loop takes its elements one by one. It uses one scope, in which the names start again for each
element. If its body asks for the state of the loop, the state is kept in a cell; otherwise the
elements come straight from the iterator.
-/

namespace WizardLogic.Template

open Render

/-! ### Assigning -/

/-- Writes a member of a namespace object, or an entry of an object. -/
def writeMember (space : Val) (name : String) (v : Val) : Render Unit := do
  match space with
  | .cell _ id =>
    match ← readCell id with
    | .namespace es => writeCell id (.namespace (Val.insertEntry (.str name) v es))
    | .dict es => writeCell id (.dict (Val.insertEntry (.str name) v es))
    | _ => invalid
  | _ => invalid

mutual

/-- Assigns a value to a target in the innermost scope. -/
def assign (p : Powers) (env : Env) : Target → Val → Render Unit
  | .name n, v => bindName env n v
  | .member space name, v => do writeMember (← readName env space) name v
  | .tuple ts, v => do assignAll p env ts (← elements p v)

/-- Assigns values to targets one by one; there have to be as many of one as of the other. -/
def assignAll (p : Powers) (env : Env) : List Target → List Val → Render Unit
  | [], [] => pure ()
  | t :: ts, v :: vs => do
    assign p env t v
    assignAll p env ts vs
  | _, _ => invalid

end

/-- Fails unless the namespace objects that a target writes to are such. -/
def checkSpaces (env : Env) (t : Target) : Render Unit :=
  (targetSpaces t).forM fun s => do
    match ← readName env s with
    | .cell .namespace _ => pure ()
    | _ => invalid

mutual

/-- The value that has been assigned to a target. -/
def assignedVal (env : Env) : Target → Render Val
  | .name n => readName env n
  | .member _ _ => invalid
  | .tuple ts => do return .tuple (← assignedVals env ts)

/-- The values that have been assigned to several targets. -/
def assignedVals (env : Env) : List Target → Render (List Val)
  | [] => pure []
  | t :: ts => do
    let v ← assignedVal env t
    return v :: (← assignedVals env ts)

end

/-! ### Parts of tags -/

/-- Filters applied to a captured text in turn. -/
def applyFilters (p : Powers) (env : Env) (fs : List FilterCall) (v : Val) : Render Val :=
  fs.foldlM (fun v (f : FilterCall) => do p.filter f.1 v (← evalArgs p env f.2 [])) v

/-- An element as a loop's condition lets it pass: none if the condition does not hold for it. -/
def passes (p : Powers) (target : Target) (test : Expr) (env : Env) (x : Val) :
    Render (Option Val) := do
  let inner ← enter env fun outside => Origins.ofTest outside target test
  assign p inner target x
  if ← isTrue (← evalExpr p inner test) then return some (← assignedVal inner target)
  else return none

/-- What the text of a template that is asked for comes to, where no other templates are. A list of
choices that is empty is missing; asking for any other is invalid. -/
def embedded (p : Powers) (v : Val) (mayMiss : Bool) : Render Unit := do
  match v with
  | .undefined | .str _ | .markup _ => invalid
  | v =>
    let choices ← if ← isTrue v then elements p v else pure []
    if mayMiss && choices.isEmpty then pure () else invalid

/-- The names that refer to sections, in the template or in a named section. -/
def bindSections (env : Env) (references : List String) (body : List Stmt) : Render Unit := do
  let found := undeclared references body
  if found.contains "self" then
    bindName env "self" (.cell .blocks (← newCell (.blocks env)))
  if found.contains "super" then bindName env "super" .undefined

/-! ### Loops -/

/-- The outputs of a step for the elements that a source yields, one behind another, and whether
there were any. `fuel` bounds the number of elements. -/
def forEach (next : Render (Option Val)) (step : Val → Render Output) :
    Nat → Output → Bool → Render (Output × Bool)
  | 0, out, any => pure (out, any)
  | fuel + 1, out, any => do
    match ← next with
    | none => return (out, any)
    | some x => do
      let s ← step x
      forEach next step fuel (out.append s) true

/-- The next element of the loop in a cell. -/
def nextInLoop (p : Powers) (id : Nat) : Render (Option Val) := do
  match ← readCell id with
  | .loop s => advanceLoop p id s
  | _ => return none

/-- The state of a loop before its first element. -/
def LoopState.start (subject : Val) (source depth : Nat) (recursion : Option LoopBody) :
    LoopState :=
  ⟨subject, source, none, 0, .undefined, .undefined, none, depth, none, recursion⟩

/-- What a loop goes through: the elements of a value, or those that pass its condition. -/
def loopSubject (loop : LoopBody) (v : Val) : Render (Val × Nat) := do
  match ← iterator? v with
  | none => invalid
  | some source =>
    match loop.test with
    | none => return (v, source)
    | some test =>
      let id ← newCell (.iterator (.passing loop.target test loop.env source))
      return (.cell .iterator id, id)

/-- The output of a loop over the elements of a value, given what the body and the other body
do. -/
def runLoop (p : Powers) (runBody runOtherwise : Env → Render Output) (loop : LoopBody)
    (recursive : Bool) (depth : Nat) (v : Val) : Render Output := do
  let env := loop.env
  let (subject, source) ← loopSubject loop v
  let known ← knownNames env.scopes
  let stateful := Origins.keepsState recursive loop.body loop.otherwise
  let origins := Origins.ofLoop (fun n => known.contains n) stateful loop.target loop.body
  let inner ← enterScope env origins
  let step (begin : Render Unit) (x : Val) : Render Output := do
    restartScope inner env origins
    begin
    assign p inner loop.target x
    runBody inner
  let (out, any) ←
    if stateful then do
      let id ← newCell
        (.loop (.start subject source depth (if recursive then some loop else none)))
      forEach (nextInLoop p id) (step (bindName inner "loop" (.cell .loop id))) maxElements
        .empty false
    else forEach (p.next source) (step (pure ())) maxElements .empty false
  if !recursive || !loop.otherwise.isEmpty then leaveScope inner
  if any || loop.otherwise.isEmpty then return out
  else
    let other ← enter env fun outside => Origins.ofBody outside [] [] loop.otherwise
    let more ← runOtherwise other
    leaveScope other
    return out.append more

/-- A loop's output, captured as the text that a call of the loop yields. -/
def loopText (env : Env) (out : Output) : Render Val := do
  let isMarkup ← escapesHere env
  captured isMarkup out

/-! ### Statements -/

mutual

/-- **What a statement writes.** -/
def execStmt (p : Powers) : Stmt → Env → Render Output
  | .text s, _ => pure (some s)
  | .mention _, _ => pure .empty
  | .print e, env => do return some (← printText env (← evalExpr p env e))
  | .branch branches otherwise, env => do
    match ← execBranches p branches env with
    | some out => return out
    | none => execStmts p otherwise env
  | .loop target iter test recursive body otherwise, env => do
    let v ← evalExpr p env iter
    let out ← runLoop p (fun env => execStmts p body env) (fun env => execStmts p otherwise env)
      ⟨target, test, body, otherwise, env⟩ recursive 0 v
    if recursive then return .ofVal (← loopText env out) else return out
  | .assign target e, env => do
    checkSpaces env target
    let v ← evalExpr p env e
    assign p env target v
    return .empty
  | .assignBlock target filters body, env => do
    let inner ← enter env fun outside => Origins.ofBody outside [] [] body
    let out ← execStmts p body inner
    let v ← if filters.isEmpty then do captured false out
      else do
        let isMarkup ← escapesHere env
        applyFilters p inner filters (← captured isMarkup out)
    let w ← if ← escapes then do pure (Val.markup (← textOf v)) else pure v
    assign p env target w
    leaveScope inner
    return .empty
  | .scope bindings body, env => do
    let inner ← enter env fun outside => Origins.ofBindings outside bindings body
    bindings.forM fun (t, e) => do
      let v ← evalExpr p env e
      assign p inner t v
    let out ← execStmts p body inner
    leaveScope inner
    return out
  | .define name params body, env => do
    let id ← newCell (.definition ⟨some name, params, Origins.specialsOf params body, body, env⟩)
    bindName env name (.cell .definition id)
    return .empty
  | .callWith params f args body, env => do
    let id ← newCell (.definition ⟨none, params, Origins.specialsOf params body, body, env⟩)
    let g ← evalExpr p env f
    let a ← evalArgs p env args [("caller", .cell .definition id)]
    return .ofVal (← p.call g a)
  | .filterBlock filters body, env => do
    let inner ← enter env fun outside => Origins.ofFiltered outside filters body
    let out ← execStmts p body inner
    let isMarkup ← escapesHere env
    let v ← applyFilters p inner filters (← captured isMarkup out)
    leaveScope inner
    return .ofVal v
  | .block _ inherits required body, env => do
    if required then invalid
    else
      let outer ← sectionEnv env inherits
      let inner ← enter outer fun _ => Origins.ofSection ["self", "super"] body
      bindSections inner ["self", "super"] body
      execStmts p body inner
  | .escaping condition settled body, env => do
    let inner ← enter env fun outside => Origins.ofBody outside [] (exprNames condition) body
    let on ← isTrue (← evalExpr p inner condition)
    let escape : Escaping := match settled with
      | some b => { env.escape with on := b }
      | none => { env.escape with depends := true }
    let out ← withEscaping on (execStmts p body { inner with escape := escape })
    leaveScope inner
    return out
  | .embed e mayMiss, env => do
    embedded p (← evalExpr p env e) mayMiss
    return .empty
  | .borrow e _, env => do
    let _ ← evalExpr p env e
    invalid
  | .extend e, env => do
    let _ ← evalExpr p env e
    invalid

/-- What several statements write. -/
def execStmts (p : Powers) : List Stmt → Env → Render Output
  | [], _ => pure .empty
  | s :: ss, env => do
    let a ← execStmt p s env
    let b ← execStmts p ss env
    return a.append b

/-- What the first branch writes whose condition holds, if there is one. -/
def execBranches (p : Powers) :
    List (Expr × List Stmt) → Env → Render (Option Output)
  | [], _ => pure none
  | (c, body) :: rest, env => do
    let v ← evalExpr p env c
    if ← isTrue v then return some (← execStmts p body env)
    else execBranches p rest env

end

end WizardLogic.Template
