import WizardLogic.Template.Eval
import WizardLogic.Template.Filter
import WizardLogic.Template.Output
import WizardLogic.Template.Test

/-!
# What is known before rendering

An expression without names and calls has the same value in every rendering. It is evaluated once,
before rendering, and the constant stands for it (`reduce`). Nothing is lost if that fails: the
expression is left as it is, and fails when rendering comes to it. Only two things make the whole
template invalid at once: an object with a key that cannot be one, and joined numbers that are too
long to have a text.

Two things are visible. What is printed and known is escaped before it is put in JSON spelling, not
after. And a negative constant that is raised to a power which is not known is written with its sign
in front of the power, so the sign is applied last.

Where it depends on a value whether printed values are escaped, nothing is reduced, and filters and
tests count as unknown.
-/

namespace WizardLogic.Template

open Render

/-! ### Values that are always the same -/

/-- A value that is known before rendering, if it is. -/
abbrev Known (α : Type) := OptionT Render α

/-- What fails here is left to rendering. -/
def Known.orLeave {α : Type} (r : Known α) : Known α :=
  OptionT.mk do return (← attempt r.run).join

/-- The filters whose outcome is not known: they look at the names, or leave it to chance. -/
def unknownFilters : List String :=
  ["map", "random", "reject", "rejectattr", "select", "selectattr"]

/-- The items of a known value; where it has none, or the bounds are none, it is undefined. Only a
step of zero is left to rendering. -/
def knownSlice (v start stop step : Val) : Known Val := do
  let items ← liftM (attempt (getSlice v start stop step))
  let all ← liftM (attempt (getSlice v .none .none .none))
  match items, all with
  | some w, _ => return w
  | none, some _ => if step.int? = some 0 then failure else return .undefined
  | none, none => return .undefined

/-- Named arguments and the entries of a spread collection. -/
def withEntries (p : Powers) (named : List (String × Val)) (v : Val) :
    Known (List (String × Val)) := Known.orLeave do
  let more ← (← pairsOf p v).mapM fun (k, w) =>
    match k.text? with
    | some n => pure (n, w)
    | none => (invalid : Render (String × Val))
  return mergeNamed named more

mutual

/-- **The value of an expression that is known before rendering.** -/
def knownVal (p : Powers) (esc : Escaping) : Expr → Known Val
  | .const c => liftM (ofConst c)
  | .name _ => failure
  | .call _ _ => failure
  | .list items => do newList (← knownVals p esc items)
  | .tuple items => do return .tuple (← knownVals p esc items)
  | .dict entries => do newDict (← knownEntries p esc entries [])
  | .attr e name => Known.orLeave do getMember p (← knownVal p esc e) name
  | .item e key => Known.orLeave do
    let v ← knownVal p esc e
    getItem p v (← knownVal p esc key)
  | .slice e start stop step => Known.orLeave do
    let v ← knownVal p esc e
    let a ← knownVal p esc start
    let b ← knownVal p esc stop
    let c ← knownVal p esc step
    knownSlice v a b c
  | .bounds start stop step => do
    let _ ← knownVal p esc start
    let _ ← knownVal p esc stop
    let _ ← knownVal p esc step
    return .undefined
  | .filter e name args => do
    if esc.depends || !filterNames.contains name || unknownFilters.contains name then failure
    else
      let a ← knownArgs p esc args
      let v ← knownVal p esc e
      Known.orLeave (withEscaping esc.on (p.filter name v a))
  | .test e name args => do
    if esc.depends || !testNames.contains name then failure
    else
      let a ← knownArgs p esc args
      let v ← knownVal p esc e
      let answer ← Known.orLeave (p.test name v a)
      return .bool answer
  | .not e => Known.orLeave do
    let b ← isTrue (← knownVal p esc e)
    return .bool !b
  | .neg e => Known.orLeave do ofOutcome (applySign true (← knownVal p esc e))
  | .pos e => Known.orLeave do ofOutcome (applySign false (← knownVal p esc e))
  | .binary op left right => Known.orLeave do
    let a ← knownVal p esc left
    let b ← knownVal p esc right
    applyBinary p op a b
  | .and left right => do
    let a ← knownVal p esc left
    if ← isTrue a then knownVal p esc right else return a
  | .or left right => do
    let a ← knownVal p esc left
    if ← isTrue a then return a else knownVal p esc right
  | .concat items => do return .str (String.join (← knownTexts p esc items))
  | .compare first rest => do
    let a ← knownVal p esc first
    let answer ← Known.orLeave (knownCompares p esc a rest)
    return .bool answer
  | .cond condition yes none => do
    let c ← knownVal p esc condition
    if ← isTrue c then knownVal p esc yes else failure
  | .cond condition yes (some no) => do
    let c ← knownVal p esc condition
    if ← isTrue c then knownVal p esc yes else knownVal p esc no

/-- The values of several expressions. -/
def knownVals (p : Powers) (esc : Escaping) : List Expr → Known (List Val)
  | [] => pure []
  | e :: es => do
    let v ← knownVal p esc e
    let vs ← knownVals p esc es
    return v :: vs

/-- The texts of the values of several expressions. -/
def knownTexts (p : Powers) (esc : Escaping) : List Expr → Known (List String)
  | [] => pure []
  | e :: es => do
    let s ← textOf (← knownVal p esc e)
    let ss ← knownTexts p esc es
    return s :: ss

/-- The entries of an object, behind those that stand before. -/
def knownEntries (p : Powers) (esc : Escaping) :
    List (Expr × Expr) → List (Val × Val) → Known (List (Val × Val))
  | [], before => pure before
  | (k, e) :: es, before => do
    let key ← knownVal p esc k
    let v ← knownVal p esc e
    if key.isHashable then knownEntries p esc es (Val.insertEntry key v before)
    else liftM (invalid : Render (List (Val × Val)))

/-- The values of the arguments by position. -/
def knownPositional (p : Powers) (esc : Escaping) : List (ArgKind × Expr) → Known (List Val)
  | [] => pure []
  | (.positional, e) :: es => do
    let v ← knownVal p esc e
    let vs ← knownPositional p esc es
    return v :: vs
  | (_, _) :: es => knownPositional p esc es

/-- The values of the arguments by name; of several with one name the last counts. -/
def knownNamed (p : Powers) (esc : Escaping) :
    List (ArgKind × Expr) → List (String × Val) → Known (List (String × Val))
  | [], before => pure before
  | (.named n, e) :: es, before => do
    let v ← knownVal p esc e
    knownNamed p esc es (mergeNamed before [(n, v)])
  | (_, _) :: es, before => knownNamed p esc es before

/-- Positional arguments and the elements of a spread collection. -/
def knownSpread (p : Powers) (esc : Escaping) :
    List (ArgKind × Expr) → List Val → Known (List Val)
  | [], before => pure before
  | (.spread, e) :: _, before => Known.orLeave do
    let xs ← elements p (← knownVal p esc e)
    return before ++ xs
  | (_, _) :: es, before => knownSpread p esc es before

/-- Named arguments and the entries of a spread object. -/
def knownSpreadNamed (p : Powers) (esc : Escaping) :
    List (ArgKind × Expr) → List (String × Val) → Known (List (String × Val))
  | [], before => pure before
  | (.spreadNamed, e) :: _, before => Known.orLeave do
    withEntries p before (← knownVal p esc e)
  | (_, _) :: es, before => knownSpreadNamed p esc es before

/-- The arguments of a filter or a test. -/
def knownArgs (p : Powers) (esc : Escaping) (args : List (ArgKind × Expr)) : Known CallArgs := do
  let positional ← knownPositional p esc args
  let named ← knownNamed p esc args []
  let positional ← knownSpread p esc args positional
  return ⟨positional, ← knownSpreadNamed p esc args named⟩

/-- Whether every comparison of a chain holds, up to the first that does not. -/
def knownCompares (p : Powers) (esc : Escaping) (left : Val) :
    List (CompareOp × Expr) → Known Bool
  | [] => pure true
  | (op, e) :: rest => do
    let right ← knownVal p esc e
    if ← compareVals p op left right then knownCompares p esc right rest else return false

end

/-! ### Constants in place of expressions -/

mutual

/-- The constant that an image is; only values that have a notation of their own are constants. -/
def Image.toConst? : Image → Option Const
  | .none => some .none
  | .bool b => some (.bool b)
  | .int n => some (.int n)
  | .float d => some (.float d)
  | .complex z => some (.complex z)
  | .str s => some (.str s)
  | .markup s => some (.markup s)
  | .list xs => (toConsts? xs).map .list
  | .tuple false xs => (toConsts? xs).map .tuple
  | .dict es => (toConstEntries? es).map .dict
  | _ => Option.none

/-- The constants that several images are. -/
def toConsts? : List Image → Option (List Const)
  | [] => some []
  | x :: xs =>
    match x.toConst?, toConsts? xs with
    | some c, some cs => some (c :: cs)
    | _, _ => none

/-- The constants that the keys and values of an object are. -/
def toConstEntries? : List (Image × Image) → Option (List (Const × Const))
  | [] => some []
  | (k, v) :: es =>
    match k.toConst?, v.toConst?, toConstEntries? es with
    | some k, some c, some cs => some ((k, c) :: cs)
    | _, _, _ => none

end

/-- A constant without the sign in front of its notation, if it has one. -/
def Const.unsigned? : Const → Option Const
  | .int n => if n < 0 then some (.int (-n)) else none
  | .float d => if d.isNegative then some (.float d.neg) else none
  | .complex z =>
    if z.re.isZero && !z.re.isNegative && z.im.isNegative then some (.complex ⟨z.re, z.im.neg⟩)
    else none
  | _ => none

/-- The constant that an expression always is, or else the expression. -/
def constantOr (p : Powers) (esc : Escaping) (e : Expr) : Render Expr := do
  match ← (knownVal p esc e).run with
  | some v =>
    match (← look v).toConst? with
    | some c => return .const c
    | none => return e
  | none => return e

/-- A power with the sign of a constant base in front. -/
def signedPower : Expr → Expr
  | .binary .pow (.const c) right =>
    match c.unsigned? with
    | some d => .neg (.binary .pow (.const d) right)
    | none => .binary .pow (.const c) right
  | e => e

mutual

/-- **An expression with constants for all that is known in it.** -/
def reduce (p : Powers) (esc : Escaping) : Expr → Render Expr
  | .const c => pure (.const c)
  | .name n => pure (.name n)
  | .list items => do constantOr p esc (.list (← reduceAll p esc items))
  | .tuple items => do constantOr p esc (.tuple (← reduceAll p esc items))
  | .dict entries => do constantOr p esc (.dict (← reduceEntries p esc entries))
  | .attr e name => do constantOr p esc (.attr (← reduce p esc e) name)
  | .item e key => do
    let e ← reduce p esc e
    let key ← reduce p esc key
    constantOr p esc (.item e key)
  | .slice e start stop step => do
    let e ← reduce p esc e
    let a ← reduce p esc start
    let b ← reduce p esc stop
    let c ← reduce p esc step
    constantOr p esc (.slice e a b c)
  | .bounds start stop step => do
    let a ← reduce p esc start
    let b ← reduce p esc stop
    let c ← reduce p esc step
    return .bounds a b c
  | .call f args => do
    let f ← reduce p esc f
    let args ← reduceArgs p esc args
    return .call f args
  | .filter e name args => do
    let e ← reduce p esc e
    let args ← reduceArgs p esc args
    constantOr p esc (.filter e name args)
  | .test e name args => do
    let e ← reduce p esc e
    let args ← reduceArgs p esc args
    constantOr p esc (.test e name args)
  | .not e => do constantOr p esc (.not (← reduce p esc e))
  | .neg e => do constantOr p esc (.neg (← reduce p esc e))
  | .pos e => do constantOr p esc (.pos (← reduce p esc e))
  | .binary op left right => do
    let left ← reduce p esc left
    let right ← reduce p esc right
    return signedPower (← constantOr p esc (.binary op left right))
  | .and left right => do
    let left ← reduce p esc left
    let right ← reduce p esc right
    constantOr p esc (.and left right)
  | .or left right => do
    let left ← reduce p esc left
    let right ← reduce p esc right
    constantOr p esc (.or left right)
  | .concat items => do constantOr p esc (.concat (← reduceAll p esc items))
  | .compare first rest => do
    let first ← reduce p esc first
    let rest ← reduceCompares p esc rest
    constantOr p esc (.compare first rest)
  | .cond condition yes none => do
    let condition ← reduce p esc condition
    let yes ← reduce p esc yes
    constantOr p esc (.cond condition yes none)
  | .cond condition yes (some no) => do
    let condition ← reduce p esc condition
    let yes ← reduce p esc yes
    let no ← reduce p esc no
    constantOr p esc (.cond condition yes (some no))

/-- Several expressions reduced. -/
def reduceAll (p : Powers) (esc : Escaping) : List Expr → Render (List Expr)
  | [] => pure []
  | e :: es => do
    let e ← reduce p esc e
    return e :: (← reduceAll p esc es)

/-- The keys and values of an object reduced. -/
def reduceEntries (p : Powers) (esc : Escaping) :
    List (Expr × Expr) → Render (List (Expr × Expr))
  | [] => pure []
  | (k, e) :: es => do
    let k ← reduce p esc k
    let e ← reduce p esc e
    return (k, e) :: (← reduceEntries p esc es)

/-- Arguments reduced. -/
def reduceArgs (p : Powers) (esc : Escaping) :
    List (ArgKind × Expr) → Render (List (ArgKind × Expr))
  | [] => pure []
  | (k, e) :: es => do
    let e ← reduce p esc e
    return (k, e) :: (← reduceArgs p esc es)

/-- A chain of comparisons reduced. -/
def reduceCompares (p : Powers) (esc : Escaping) :
    List (CompareOp × Expr) → Render (List (CompareOp × Expr))
  | [] => pure []
  | (op, e) :: es => do
    let e ← reduce p esc e
    return (op, e) :: (← reduceCompares p esc es)

end

mutual

/-- An expression in a statement. A collection that is written down stays one; the rest is reduced,
unless it depends on a value how printed values are escaped. -/
def settle (p : Powers) (esc : Escaping) : Expr → Render Expr
  | .list items => do return .list (← settleAll p esc items)
  | .tuple items => do return .tuple (← settleAll p esc items)
  | .dict entries => do return .dict (← settleEntries p esc entries)
  | e => if esc.depends then pure e else reduce p esc e

/-- Several expressions settled. -/
def settleAll (p : Powers) (esc : Escaping) : List Expr → Render (List Expr)
  | [] => pure []
  | e :: es => do
    let e ← settle p esc e
    return e :: (← settleAll p esc es)

/-- The keys and values of an object settled. -/
def settleEntries (p : Powers) (esc : Escaping) :
    List (Expr × Expr) → Render (List (Expr × Expr))
  | [] => pure []
  | (k, e) :: es => do
    let k ← settle p esc k
    let e ← settle p esc e
    return (k, e) :: (← settleEntries p esc es)

end

/-- The arguments of a call or a filter in a tag. -/
def settleArgs (p : Powers) (esc : Escaping) (args : Args) : Render Args :=
  if esc.depends then pure args else reduceArgs p esc args

/-- The filters of a captured text. -/
def settleFilters (p : Powers) (esc : Escaping) (fs : List FilterCall) :
    Render (List FilterCall) :=
  fs.mapM fun (name, args) => do return (name, ← settleArgs p esc args)

/-- An expression that may be absent. -/
def settleOption (p : Powers) (esc : Escaping) (e : Option Expr) : Render (Option Expr) :=
  e.mapM (settle p esc)

/-- The parameters of a definition. -/
def settleParams (p : Powers) (esc : Escaping) (params : Params) : Render Params :=
  params.mapM fun (n, e) => do return (n, ← settleOption p esc e)

/-! ### Statements -/

/-- The text of a printed expression that is known before rendering. -/
def knownText (p : Powers) (esc : Escaping) (e : Expr) : Known String := Known.orLeave do
  let v ← knownVal p esc e
  if esc.on then escapedText v
  else do textOf (← printed v)

/-- A printed expression: its text, if that is known. -/
def settlePrint (p : Powers) (esc : Escaping) (e : Expr) : Render Stmt := do
  match ← (knownText p esc e).run with
  | some s => return .text s
  | none => return .print (← settle p esc e)

/-- Statements, behind a mention of the names that are no longer in some expressions. -/
def mentioning (before after : List Expr) (ss : List Stmt) : List Stmt :=
  let kept := exprsNames after
  match (exprsNames before).filter fun n => !kept.contains n with
  | [] => ss
  | lost => .mention lost :: ss

/-- How printed values are escaped where a condition decides that. -/
def escapingBy (p : Powers) (esc : Escaping) (condition : Expr) :
    Render (Option Bool × Escaping) := do
  match ← (knownVal p esc condition).run with
  | some v =>
    let b ← isTrue v
    return (some b, { esc with on := b })
  | none => return (none, { esc with depends := true })

mutual

/-- **A statement with constants for all that is known in it.** -/
def settleStmt (p : Powers) (esc : Escaping) : Stmt → Render (List Stmt)
  | .text s => pure [.text s]
  | .mention ns => pure [.mention ns]
  | .print e => do
    let s ← settlePrint p esc e
    return mentioning [e] s.exprs [s]
  | .branch branches otherwise => do
    let bs ← settleBranches p esc branches
    let body ← settleStmts p esc otherwise
    return mentioning (branches.map Prod.fst) (bs.map Prod.fst) [.branch bs body]
  | .loop target iter test recursive body otherwise => do
    let t ← settleOption p esc test
    let i ← settle p esc iter
    let b ← settleStmts p esc body
    let o ← settleStmts p esc otherwise
    return mentioning [iter] [i] [.loop target i t recursive b o]
  | .assign target e => do
    let v ← settle p esc e
    return mentioning [e] [v] [.assign target v]
  | .assignBlock target filters body => do
    let b ← settleStmts p esc body
    return [.assignBlock target (← settleFilters p esc filters) b]
  | .scope bindings body => do
    let bs ← bindings.mapM fun (t, e) => do return (t, ← settle p esc e)
    let b ← settleStmts p esc body
    return mentioning (bindings.map Prod.snd) (bs.map Prod.snd) [.scope bs b]
  | .define name params body => do
    let ps ← settleParams p esc params
    return [.define name ps (← settleStmts p esc body)]
  | .callWith params f args body => do
    let ps ← settleParams p esc params
    let b ← settleStmts p esc body
    let g ← settle p esc f
    let as ← settleArgs p esc args
    return mentioning (f :: args.map Prod.snd) (g :: as.map Prod.snd) [.callWith ps g as b]
  | .filterBlock filters body => do
    let b ← settleStmts p esc body
    let fs ← settleFilters p esc filters
    return mentioning (filterExprs filters) (filterExprs fs) [.filterBlock fs b]
  | .block name inherits required body => do
    return [.block name inherits required (← settleStmts p ⟨false, false⟩ body)]
  | .escaping condition _ body => do
    let c ← settle p esc condition
    let (settled, inner) ← escapingBy p esc condition
    let b ← settleStmts p inner body
    return [.escaping c settled (mentioning [condition] [c] b)]
  | .embed e mayMiss => do
    let v ← settle p esc e
    return mentioning [e] [v] [.embed v mayMiss]
  | .borrow e names => do
    let v ← settle p esc e
    return mentioning [e] [v] [.borrow v names]
  | .extend e => do
    let v ← settle p esc e
    return mentioning [e] [v] [.extend v]

/-- Several statements with constants for all that is known in them. -/
def settleStmts (p : Powers) (esc : Escaping) : List Stmt → Render (List Stmt)
  | [] => pure []
  | s :: ss => do
    let here ← settleStmt p esc s
    return here ++ (← settleStmts p esc ss)

/-- The branches of a condition with constants for all that is known in them. -/
def settleBranches (p : Powers) (esc : Escaping) :
    List (Expr × List Stmt) → Render (List (Expr × List Stmt))
  | [] => pure []
  | (c, body) :: bs => do
    let c ← settle p esc c
    let b ← settleStmts p esc body
    return (c, b) :: (← settleBranches p esc bs)

end

end WizardLogic.Template
