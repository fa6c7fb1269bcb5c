import WizardLogic.Template.Exec
import WizardLogic.Template.Filter
import WizardLogic.Template.Method
import WizardLogic.Template.Stream
import WizardLogic.Template.Test

/-!
# Calls

What a template can call: the global functions, functions that belong to values, definitions, loops
that go on inside themselves, named sections and joiners (`callValue`).

Calls, filters and tests evaluate expressions and statements, which call again. `powersWithin` ties
the knot, with a bound on how deeply calls may nest.
-/

namespace WizardLogic.Template

open Render

/-! ### Global functions -/

/-- The longest range a template may make. -/
def maxRange : Nat := 100000

/-- The range with the given bounds and step. -/
def makeRange (a : CallArgs) : Render Val := do
  let bounds ← a.positional.mapM fun v => ofOutcome (intOf v)
  let make (start stop step : Int) : Render Val :=
    if step = 0 then invalid
    else if Val.rangeLength start stop step > maxRange then fail (.fault .overflow)
    else pure (.range start stop step)
  match bounds, a.named with
  | [stop], [] => make 0 stop 1
  | [start, stop], [] => make start stop 1
  | [start, stop, step], [] => make start stop step
  | _, _ => invalid

/-- A call of a global function. -/
def callGlobal (p : Powers) (g : Global) (a : CallArgs) : Render Val := do
  match g with
  | .range => makeRange a
  | .dict => do newDict (← entriesFrom p a [])
  | .namespace => do
    let es ← entriesFrom p a []
    return .cell .namespace (← newCell (.namespace es))
  | .cycler =>
    if !a.named.isEmpty then invalid
    else if a.positional.isEmpty then fail (.fault .unsteady)
    else return .cell .cycler (← newCell (.cycler a.positional 0))
  | .joiner =>
    let b ← ofOutcome (a.bind ["sep"])
    return .cell .joiner (← newCell (.joiner (argument b 0 (.str ", ")) false))
  | .lipsum =>
    let b ← ofOutcome (a.bind ["n", "html", "min", "max"])
    return if ← isTrue (argument b 1 (.bool true)) then .markup "" else .str ""

/-- The functions that every template can call, by name. -/
def globals : List (String × Val) :=
  [("range", .global .range), ("dict", .global .dict), ("lipsum", .global .lipsum),
   ("cycler", .global .cycler), ("joiner", .global .joiner), ("namespace", .global .namespace)]

/-! ### Definitions -/

/-- What a call hands to a definition. -/
structure Handed where
  /-- The values of the parameters, as far as they are given. -/
  args : List (Option Val)
  /-- The body handed over, unless a parameter takes it. -/
  caller : Option Val
  /-- The named arguments that are left over. -/
  named : List (String × Val)
  /-- The positional arguments that are left over. -/
  positional : List Val

/-- The arguments of a call in the places where a definition takes them. A definition that asks for
the body handed to it takes it from the named arguments, unless one of its parameters that is not
given by position is to hold it. -/
def Definition.hand (d : Definition) (a : CallArgs) : Except Failure Handed :=
  let names := d.params.map Prod.fst
  let given := a.positional.take names.length
  let rest := names.drop given.length
  let args := given.map some ++ rest.map fun n => a.named.lookup n
  let left := a.named.filter fun (n, _) => !rest.contains n
  let more := a.positional.drop names.length
  let held := if rest.isEmpty then names.contains "caller" else rest.contains "caller"
  let takesCaller := d.specials.contains "caller" && !held
  let caller := match left.lookup "caller" with
    | some .none | none => .undefined
    | some v => v
  let left := if takesCaller then left.filter fun (n, _) => n != "caller" else left
  if takesCaller && names.contains "caller" then .error .invalid
  else if !d.specials.contains "kwargs" && !left.isEmpty then .error .invalid
  else if !d.specials.contains "varargs" && !more.isEmpty then .error .invalid
  else .ok ⟨args, if takesCaller then some caller else none, left, more⟩

/-- Gives the parameters of a definition the values that are handed to it. -/
def bindGiven (env : Env) (params : Params) (args : List (Option Val)) : Render Unit :=
  (params.zip args).forM fun ((n, _), v) =>
    match v with
    | some v => bindName env n v
    | none => pure ()

/-- Gives the parameters of a definition that have got no value their defaults, in order. -/
def bindDefaults (p : Powers) (env : Env) (params : Params) (args : List (Option Val)) :
    Render Unit :=
  (params.zip args).forM fun ((n, default), v) => do
    match v, default with
    | some _, _ => pure ()
    | none, some e => bindName env n (← evalExpr p env e)
    | none, none => bindName env n .undefined

/-- Gives the special names of a definition what is handed over beside the parameters. -/
def bindSpecials (d : Definition) (env : Env) (h : Handed) : Render Unit := do
  match h.caller with
  | some v => bindName env "caller" v
  | none => pure ()
  if d.specials.contains "kwargs" then
    bindName env "kwargs" (← newDict (h.named.map fun (n, v) => (.str n, v)))
  if d.specials.contains "varargs" then bindName env "varargs" (.tuple h.positional)

/-- **What a call of a definition yields:** the text of its body. -/
def runDefinition (p : Powers) (d : Definition) (a : CallArgs) : Render Val := do
  let h ← ofOutcome (d.hand a)
  let inner ← enter d.env fun outside => Origins.ofDefinition outside d.params d.body
  bindGiven inner d.params h.args
  bindSpecials d inner h
  bindDefaults p inner d.params h.args
  let out ← execStmts p d.body inner
  let isMarkup ← escapes
  captured isMarkup out

/-! ### Other calls -/

/-- The text of a named section, as a call of it yields it. -/
def runSection (p : Powers) (name : String) (env : Env) : Render Val := do
  match env.blocks.lookup name with
  | some b =>
    let outer ← sectionEnv env false
    let inner ← enter outer fun _ => Origins.ofSection ["self", "super"] b.body
    bindSections inner ["self", "super"] b.body
    let out ← execStmts p b.body inner
    let isMarkup ← escapes
    captured isMarkup out
  | none => invalid

/-- The text of a loop over further elements, one level down. -/
def runAgain (p : Powers) (s : LoopState) (a : CallArgs) : Render Val := do
  match s.recursion, ← ofOutcome (a.bind ["iterable"]) with
  | some loop, [some v] =>
    let out ← runLoop p (fun env => execStmts p loop.body env)
      (fun env => execStmts p loop.otherwise env) loop true (s.depth + 1) v
    loopText loop.env out
  | _, _ => invalid

/-- A call of a joiner: nothing the first time, then the separator. -/
def callJoiner (id : Nat) (separator : Val) (used : Bool) (a : CallArgs) : Render Val := do
  if !a.positional.isEmpty || !a.named.isEmpty then invalid
  else
    writeCell id (.joiner separator true)
    return if used then separator else .str ""

/-- **A call of a value.** -/
def callValue (p : Powers) (f : Val) (a : CallArgs) : Render Val := do
  match f with
  | .global g => callGlobal p g a
  | .method receiver name => callMethod p receiver name a
  | .cell _ id =>
    match ← readCell id with
    | .joiner separator used => callJoiner id separator used a
    | .definition d => runDefinition p d a
    | .loop s => runAgain p s a
    | .block name env =>
      if a.positional.isEmpty && a.named.isEmpty then runSection p name env else invalid
    | _ => invalid
  | _ => invalid

/-- **Calls, filters and tests** that nest at most so deeply. -/
def powersWithin : Nat → Powers
  | 0 =>
    { next := fun _ => fail (.fault .tooDeep)
      call := fun _ _ => fail (.fault .tooDeep)
      filter := fun _ _ _ => fail (.fault .tooDeep)
      test := fun _ _ _ => fail (.fault .tooDeep)
      passes := fun _ _ _ _ => fail (.fault .tooDeep) }
  | depth + 1 =>
    let p := powersWithin depth
    { next := nextOf p
      call := callValue p
      filter := callFilter p
      test := callTest p
      passes := passes p }

/-- How deeply calls may nest. -/
def maxDepth : Nat := 190

end WizardLogic.Template
