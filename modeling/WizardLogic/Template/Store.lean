import WizardLogic.Template.Failure
import WizardLogic.Template.Val

/-!
# The store of a rendering

Rendering keeps two kinds of thing that change: **scopes**, in which names have values, and
**cells**, which hold the values that can change. Both are only added to, so a reference stays good
for the whole rendering; a definition remembers the scopes it was made in by reference and sees
later assignments there.

A name may be known in a scope without having a value yet; it is then undefined there, whatever
the scopes outside hold.

Whether printed values are escaped is known twice. What is written in a body goes by the escaping
that surrounds it in the template (`Env.escape`); filters, and what a definition yields, go by the
escaping that is in force when they are called (`Store.escaping`).
-/

namespace WizardLogic.Template

/-- The names of one scope. -/
abbrev Scope := List (String × Option Val)

/-- How the values printed in a body are escaped. -/
structure Escaping where
  /-- Whether they are, as far as that is known before rendering. -/
  on : Bool
  /-- Whether it depends on a value that only rendering yields. -/
  depends : Bool
deriving DecidableEq, Repr

/-- A named section of the template. -/
structure Block where
  required : Bool
  body : List Stmt

/-- What the evaluation of an expression or statement is given. -/
structure Env where
  /-- The scopes in sight, innermost first. -/
  scopes : List Nat
  /-- The scope of the whole template, whose names every named section sees. -/
  top : Nat
  /-- The names given to the template and the global functions; before them, the names that the
  surroundings of a named section hand to it. -/
  given : List (String × Val)
  escape : Escaping
  /-- The named sections. -/
  blocks : List (String × Block)

/-- The arguments of a call. -/
structure CallArgs where
  positional : List Val
  named : List (String × Val)
deriving Inhabited

/-- A parametrised body. -/
structure Definition where
  /-- None for a body that is handed to a call. -/
  name : Option String
  params : Params
  /-- The special names that the body reads: what it is handed, and the arguments left over. -/
  specials : List String
  body : List Stmt
  env : Env

/-- What a loop that may call itself executes again. -/
structure LoopBody where
  target : Target
  test : Option Expr
  body : List Stmt
  otherwise : List Stmt
  env : Env

/-- The state of a running loop. -/
structure LoopState where
  /-- What the loop goes through. -/
  subject : Val
  /-- The cell of the iterator that yields its elements. -/
  source : Nat
  /-- The number of elements, once it has been asked for. -/
  length : Option Nat
  /-- The number of elements yielded so far. -/
  count : Nat
  previous : Val
  current : Val
  /-- The next element, if the loop has looked ahead. -/
  next : Option Val
  depth : Nat
  /-- The values last given to the change check. -/
  lastSeen : Option (List Val)
  recursion : Option LoopBody

/-- Where an iterator stands. -/
inductive Stream
  | ended
  | given (items : List Val)
  /-- A position in a list that may change meanwhile. -/
  | list (id position : Nat)
  /-- A number of elements left at the front of a list. -/
  | listBack (id left : Nat)
  /-- A position in an object that must keep its size. -/
  | entries (kind : ViewKind) (id position size : Nat) (backwards : Bool)
  /-- What is left of a loop's elements. -/
  | loop (id : Nat)
  /-- A filter that has not yet begun. -/
  | waiting (filter : String) (subject : Val) (args : CallArgs)
  /-- The attributes of elements. -/
  | looked (path : List Val) (default : Option Val) (source : Nat)
  /-- Elements, each of them filtered. -/
  | filtered (filter : Val) (args : CallArgs) (source : Nat)
  /-- The elements whose attribute passes a test, or fails it. -/
  | chosen (keep : Bool) (path : List Val) (test : Option (Val × CallArgs)) (source : Nat)
  /-- Elements put together; some are held already. -/
  | batched (size fill : Val) (held : List Val) (source : Nat)
  /-- The elements whose attribute has not been seen. -/
  | distinct (path : List Val) (caseSensitive : Bool) (seen : List Val) (source : Nat)
  /-- The elements that pass the condition of a loop. -/
  | passing (target : Target) (test : Expr) (env : Env) (source : Nat)

/-- The content of a cell. -/
inductive Cell
  | list (items : Array Val)
  | dict (entries : List (Val × Val))
  | iterator (stream : Stream)
  | namespace (entries : List (Val × Val))
  | cycler (items : List Val) (position : Nat)
  | joiner (separator : Val) (used : Bool)
  | loop (state : LoopState)
  | definition (d : Definition)
  | blocks (env : Env)
  | block (name : String) (env : Env)

instance : Inhabited Cell := ⟨.list #[]⟩

/-- Scopes and cells, and whether values are escaped at the moment. -/
structure Store where
  scopes : Array Scope
  cells : Array Cell
  escaping : Bool

/-- Nothing yet. -/
def Store.empty : Store := ⟨#[], #[], false⟩

/-- The effect of rendering: it changes the store and may fail. -/
abbrev Render (α : Type) := StateT Store (Except Failure) α

/-- What going through values takes of the whole evaluation. -/
structure Powers where
  /-- The next element of an iterator, by its cell. -/
  next : Nat → Render (Option Val)
  /-- A call of a value. -/
  call : Val → CallArgs → Render Val
  /-- A filter applied to a value. -/
  filter : String → Val → CallArgs → Render Val
  /-- The answer of a test. -/
  test : String → Val → CallArgs → Render Bool
  /-- An element as a loop's condition lets it pass, if it does. -/
  passes : Target → Expr → Env → Val → Render (Option Val)

namespace Render

/-- Ends the rendering. -/
def fail {α : Type} (f : Failure) : Render α := fun _ => .error f

/-- Ends the rendering because the template is invalid. -/
def invalid {α : Type} : Render α := fail .invalid

/-- An outcome without effect. -/
def ofOutcome {α : Type} (r : Except Failure α) : Render α :=
  match r with
  | .ok a => pure a
  | .error f => fail f

/-- A value that has to be there. -/
def require {α : Type} (a : Option α) : Render α :=
  match a with
  | some a => pure a
  | none => invalid

/-- The outcome of a computation; what it has done is kept only if it succeeds. -/
def attempt {α : Type} (r : Render α) : Render (Option α) := fun s =>
  match r s with
  | .ok (a, s) => .ok (some a, s)
  | .error _ => .ok (none, s)

/-- Whether values are escaped at the moment. -/
def escapes : Render Bool := fun s => .ok (s.escaping, s)

/-- A computation during which values are escaped, or not. -/
def withEscaping {α : Type} (on : Bool) (r : Render α) : Render α := do
  let before ← escapes
  modify fun s => { s with escaping := on }
  let a ← r
  modify fun s => { s with escaping := before }
  return a

/-- Adds a cell. -/
def newCell (c : Cell) : Render Nat := fun s =>
  .ok (s.cells.size, { s with cells := s.cells.push c })

/-- The content of a cell. -/
def readCell (id : Nat) : Render Cell := fun s => .ok (s.cells.getD id default, s)

/-- Replaces the content of a cell. -/
def writeCell (id : Nat) (c : Cell) : Render Unit := fun s =>
  .ok ((), { s with cells := s.cells.setIfInBounds id c })

/-- A new list. -/
def newList (items : List Val) : Render Val := do
  return .cell .list (← newCell (.list items.toArray))

/-- A new object. -/
def newDict (entries : List (Val × Val)) : Render Val := do
  return .cell .dict (← newCell (.dict entries))

/-- A new iterator. -/
def newIterator (s : Stream) : Render Val := do return .cell .iterator (← newCell (.iterator s))

/-- The items of the list in a cell. -/
def listItems (id : Nat) : Render (Array Val) := do
  match ← readCell id with
  | .list xs => return xs
  | _ => return #[]

/-- The entries of the object in a cell. -/
def dictEntries (id : Nat) : Render (List (Val × Val)) := do
  match ← readCell id with
  | .dict es => return es
  | _ => return []

/-- The elements of a list or a tuple. -/
def sequence? (v : Val) : Render (Option (List Val)) := do
  match v with
  | .cell .list id => return some (← listItems id).toList
  | .tuple xs => return some xs
  | .group k xs => return some [k, xs]
  | _ => return none

/-- Adds a scope. -/
def newScope (names : Scope) : Render Nat := fun s =>
  .ok (s.scopes.size, { s with scopes := s.scopes.push names })

/-- The names of a scope. -/
def readScope (id : Nat) : Render Scope := fun s => .ok (s.scopes.getD id [], s)

/-- Replaces the names of a scope. -/
def writeScope (id : Nat) (names : Scope) : Render Unit := fun s =>
  .ok ((), { s with scopes := s.scopes.setIfInBounds id names })

/-- Gives a name a value in a scope. -/
def setName (id : Nat) (name : String) (v : Val) : Render Unit := fun s =>
  let rec put : Scope → Scope
    | [] => [(name, some v)]
    | (n, w) :: rest => if n = name then (n, some v) :: rest else (n, w) :: put rest
  .ok ((), { s with scopes := s.scopes.modify id put })

/-! ### Values from outside -/

mutual

/-- The template value of a JSON value. -/
def ofValue : Value → Render Val
  | .null => pure .none
  | .bool b => pure (.bool b)
  | .int n => pure (.int n)
  | .float d => pure (.float d)
  | .str s => pure (.str s)
  | .list items => do newList (← ofValues items)
  | .obj es => do newDict (← ofEntries es)

/-- The template values of several JSON values. -/
def ofValues : List Value → Render (List Val)
  | [] => pure []
  | v :: vs => do
    let w ← ofValue v
    return w :: (← ofValues vs)

/-- The template values of the entries of an object. -/
def ofEntries : List (Key × Value) → Render (List (Val × Val))
  | [] => pure []
  | (k, v) :: es => do
    let w ← ofValue v
    let key : Val := match k with
      | .null => .none
      | .bool b => .bool b
      | .int n => .int n
      | .float d => .float d
      | .str s => .str s
    return (key, w) :: (← ofEntries es)

end

mutual

/-- The value of a constant; a collection is a new one each time. -/
def ofConst : Const → Render Val
  | .none => pure .none
  | .bool b => pure (.bool b)
  | .int n => pure (.int n)
  | .float d => pure (.float d)
  | .complex z => pure (.complex z)
  | .str s => pure (.str s)
  | .markup s => pure (.markup s)
  | .list items => do newList (← ofConsts items)
  | .tuple items => do return .tuple (← ofConsts items)
  | .dict es => do newDict (← ofConstEntries es)

/-- The values of several constants. -/
def ofConsts : List Const → Render (List Val)
  | [] => pure []
  | c :: cs => do
    let v ← ofConst c
    return v :: (← ofConsts cs)

/-- The values of the keys and values of constant entries. -/
def ofConstEntries : List (Const × Const) → Render (List (Val × Val))
  | [] => pure []
  | (k, c) :: es => do
    let key ← ofConst k
    let v ← ofConst c
    return (key, v) :: (← ofConstEntries es)

end

end Render

namespace CallArgs

/-- No arguments. -/
def none : CallArgs := ⟨[], []⟩

/-- Positional arguments. -/
def ofList (vs : List Val) : CallArgs := ⟨vs, []⟩

/-- The arguments in the order of the parameter names; absent ones are none. Too many arguments,
unknown names and doubly given parameters are invalid. -/
def bind (a : CallArgs) (params : List String) : Except Failure (List (Option Val)) :=
  let taken := params.take a.positional.length
  if a.positional.length > params.length then .error .invalid
  else if a.named.any fun (n, _) => taken.contains n || !params.contains n then .error .invalid
  else
    .ok (a.positional.map some ++
      (params.drop a.positional.length).map fun p => a.named.lookup p)

end CallArgs

end WizardLogic.Template
