import WizardLogic.Slice
import WizardLogic.Template.Elements
import WizardLogic.Template.Look
import WizardLogic.Text.Alphanumeric
import WizardLogic.Text.Search

/-!
# Members and items

A member is asked for by name, an item by key. Asking for a member looks for an attribute of the
value first and for an item second (`getMember`); asking for an item looks the other way round
(`getItem`). Where neither is found the result is undefined. Attributes whose names start with an
underscore are never handed out.
-/

namespace WizardLogic.Template

open Render

/-! ### Attributes -/

/-- The functions of texts. -/
def textMethods : List String :=
  ["capitalize", "casefold", "center", "count", "encode", "endswith", "expandtabs", "find",
   "format", "format_map", "index", "isalnum", "isalpha", "isascii", "isdecimal", "isdigit",
   "isidentifier", "islower", "isnumeric", "isprintable", "isspace", "istitle", "isupper",
   "join", "ljust", "lower", "lstrip", "maketrans", "partition", "removeprefix",
   "removesuffix", "replace", "rfind", "rindex", "rjust", "rpartition", "rsplit", "rstrip",
   "split", "splitlines", "startswith", "strip", "swapcase", "title", "translate", "upper",
   "zfill"]

/-- The functions of markup beyond those of texts. -/
def markupMethods : List String := ["escape", "striptags", "unescape"]

/-- The functions of bytes. -/
def bytesMethods : List String := ["decode", "hex"]

/-- The functions of lists. -/
def listMethods : List String :=
  ["append", "clear", "copy", "count", "extend", "index", "insert", "pop", "remove", "reverse",
   "sort"]

/-- The functions of tuples and ranges. -/
def tupleMethods : List String := ["count", "index"]

/-- The functions of objects. -/
def dictMethods : List String :=
  ["clear", "copy", "fromkeys", "get", "items", "keys", "pop", "popitem", "setdefault", "update",
   "values"]

/-- The functions of integers. -/
def intMethods : List String :=
  ["as_integer_ratio", "bit_count", "bit_length", "conjugate", "from_bytes", "to_bytes"]

/-- The functions of floating-point numbers. -/
def floatMethods : List String :=
  ["as_integer_ratio", "conjugate", "fromhex", "hex", "is_integer"]

/-- The hidden attributes of objects, which come before items of the same name. -/
def hiddenAttributes : List String :=
  ["__class__", "__class_getitem__", "__contains__", "__delattr__", "__delitem__", "__dir__",
   "__doc__", "__eq__", "__format__", "__ge__", "__getattribute__", "__getitem__", "__getstate__",
   "__gt__", "__hash__", "__init__", "__init_subclass__", "__ior__", "__iter__", "__le__",
   "__len__", "__lt__", "__ne__", "__new__", "__or__", "__reduce__", "__reduce_ex__", "__repr__",
   "__reversed__", "__ror__", "__setattr__", "__setitem__", "__sizeof__", "__str__",
   "__subclasshook__"]

/-- An attribute of an integer. -/
def intAttribute? (n : Int) (name : String) : Option Val :=
  if name = "real" || name = "numerator" then some (.int n)
  else if name = "imag" then some (.int 0)
  else if name = "denominator" then some (.int 1)
  else if intMethods.contains name then some (.method (.int n) name)
  else none

/-- A property of a running loop. -/
def loopAttribute? (p : Powers) (s : LoopState) (id : Nat) (name : String) :
    Render (Option Val) := do
  let index : Int := (s.count : Int) - 1
  match name with
  | "index0" => return some (.int index)
  | "index" => return some (.int s.count)
  | "first" => return some (.bool (index = 0))
  | "depth0" => return some (.int s.depth)
  | "depth" => return some (.int (s.depth + 1))
  | "length" => return some (.int (← loopLength p maxLoops id))
  | "revindex" => return some (.int ((← loopLength p maxLoops id) - index : Int))
  | "revindex0" => return some (.int ((← loopLength p maxLoops id) - s.count : Int))
  | "last" => return some (.bool (← lookAhead p id s).isNone)
  | "previtem" => return some (if index = 0 then .undefined else s.previous)
  | "nextitem" => return some ((← lookAhead p id s).getD .undefined)
  | "cycle" | "changed" => return some (.method (.cell .loop id) name)
  | _ => return none

/-- An attribute of a definition. -/
def definitionAttribute? (d : Definition) (name : String) : Option Val :=
  let names := d.params.map Prod.fst
  match name with
  | "name" => some (match d.name with
    | some n => .str n
    | none => .none)
  | "arguments" => some (.tuple (names.map .str))
  | "catch_kwargs" => some (.bool (d.specials.contains "kwargs"))
  | "catch_varargs" => some (.bool (d.specials.contains "varargs"))
  | "caller" => some (.bool (d.specials.contains "caller"))
  | "explicit_caller" => some (.bool (names.contains "caller"))
  | _ => none

/-- An attribute of a value in a cell. -/
def cellAttribute? (p : Powers) (kind : CellKind) (id : Nat) (name : String) :
    Render (Option Val) := do
  let bound (names : List String) : Option Val :=
    if names.contains name then some (.method (.cell kind id) name) else none
  match ← readCell id with
  | .list _ => return bound listMethods
  | .dict _ =>
    return if hiddenAttributes.contains name then some .undefined else bound dictMethods
  | .namespace es => return Val.lookup? (.str name) es
  | .loop s => loopAttribute? p s id name
  | .cycler items position =>
    return if name = "pos" then some (.int position)
      else if name = "items" then some (.tuple items)
      else if name = "current" then items[position]?
      else bound ["next", "reset"]
  | .joiner separator used =>
    return if name = "sep" then some separator
      else if name = "used" then some (.bool used)
      else none
  | .definition d => return definitionAttribute? d name
  | .block n _ =>
    return if name = "name" then some (.str n)
      else if name = "super" then some .undefined
      else none
  | _ => return none

/-- An attribute of a value, if it has one of that name. -/
def attribute? (p : Powers) (v : Val) (name : String) : Render (Option Val) :=
  let bound (names : List String) : Option Val :=
    if names.contains name then some (.method v name) else none
  match v with
  | .undefined => pure (some .undefined)
  | .str _ => pure (bound textMethods)
  | .markup _ => pure (bound (textMethods ++ markupMethods))
  | .bytes _ => pure (bound bytesMethods)
  | .tuple _ => pure (bound tupleMethods)
  | .group k xs =>
    pure (if name = "grouper" then some k else if name = "list" then some xs
      else bound tupleMethods)
  | .view .values _ => pure none
  | .view _ _ => pure (bound ["isdisjoint"])
  | .range start stop step =>
    pure (if name = "start" then some (.int start) else if name = "stop" then some (.int stop)
      else if name = "step" then some (.int step) else bound tupleMethods)
  | .bool b => pure (intAttribute? (if b then 1 else 0) name)
  | .int n => pure (intAttribute? n name)
  | .float _ =>
    pure (if name = "real" then some v
      else if name = "imag" then some (.float (Double.zero false)) else bound floatMethods)
  | .complex z =>
    pure (if name = "real" then some (.float z.re) else if name = "imag" then some (.float z.im)
      else bound ["conjugate"])
  | .global .dict => pure (bound ["fromkeys"])
  | .cell kind id => cellAttribute? p kind id name
  | _ => pure none

/-- An attribute that may be handed out; the others are undefined. -/
def safeAttribute (name : String) (v : Val) : Val :=
  if name.toList.head? = some '_' then .undefined else v

/-! ### Items -/

/-- The element of a list at a position, counted from the end when negative. -/
def elementAt? {α : Type} (xs : List α) (i : Int) : Option α :=
  let i := if i < 0 then i + xs.length else i
  if i < 0 then none else xs[i.toNat]?

/-- The item of a value under a key, if it has one. -/
def item? (v key : Val) : Render (Option Val) :=
  let among (xs : List Val) : Option Val := do elementAt? xs (← key.int?)
  match v with
  | .undefined => pure (some .undefined)
  | .str s => pure (among (charVals s))
  | .markup s => pure ((among (charVals s)).map fun c => .markup (c.text?.getD ""))
  | .bytes bs => pure (among (bs.map fun b => .int b.toNat))
  | .tuple xs => pure (among xs)
  | .group k xs => pure (among [k, xs])
  | .range a b c => pure (among (Val.rangeItems a b c))
  | .cell .list id => do return among (← listItems id).toList
  | .cell .dict id => do
    let es ← dictEntries id
    return if key.isHashable then Val.lookup? key es else none
  | .cell .blocks id => do
    match ← readCell id, key.text? with
    | .blocks env, some name =>
      if (env.blocks.lookup name).isSome then
        return some (.cell .block (← newCell (.block name env)))
      else return none
    | _, _ => return none
  | _ => pure none

/-- The member of a value with a name. -/
def getMember (p : Powers) (v : Val) (name : String) : Render Val := do
  match ← attribute? p v name with
  | some w => return safeAttribute name w
  | none => return (← item? v (.str name)).getD .undefined

/-- The item of a value under a key. -/
def getItem (p : Powers) (v key : Val) : Render Val := do
  match ← item? v key with
  | some w => return w
  | none =>
    match key.text? with
    | some name => return safeAttribute name ((← attribute? p v name).getD .undefined)
    | none => return .undefined

/-! ### Slices -/

/-- A bound of a slice. -/
def sliceBound (v : Val) : Except Failure (Option Int) :=
  match v with
  | .none => .ok none
  | v =>
    match v.int? with
    | some n => .ok (some n)
    | none => invalid

/-- The items of a value from a start to a stop, by steps. -/
def getSlice (v start stop step : Val) : Render Val := do
  let bounds : Except Failure (Option Int × Option Int × Int) := do
    let a ← sliceBound start
    let b ← sliceBound stop
    let c ← sliceBound step
    if c = some 0 then .error .invalid else return (a, b, c.getD 1)
  let take {α : Type} (xs : List α) : Render (List α) := do
    let (a, b, c) ← ofOutcome bounds
    return slice xs a b c
  match v with
  | .undefined => return .undefined
  | .str s => return .str (String.ofList (← take s.toList))
  | .markup s => return .markup (String.ofList (← take s.toList))
  | .bytes bs => return .bytes (← take bs)
  | .tuple xs => return .tuple (← take xs)
  | .group k xs => return .tuple (← take [k, xs])
  | .cell .list id => do newList (← take (← listItems id).toList)
  | .range first last by' => do
    let (a, b, c) ← ofOutcome bounds
    let (a, b) := sliceBounds (Val.rangeLength first last by') a b c
    return .range (first + by' * a) (first + by' * b) (by' * c)
  | _ => invalid

/-! ### Paths -/

/-- The parts of an attribute path: numbers are positions, other parts are names. -/
def pathParts (path : Val) : Except Failure (List Val) :=
  match path.text? with
  | some s =>
    (Text.split ['.'] none s.toList).mapM fun part =>
      if !part.isEmpty && part.all Text.isDigitLike then
        match Number.readInt? part with
        | some n => .ok (.int n)
        | none => invalid
      else .ok (.ofChars part)
  | none =>
    match path with
    | .none => .ok []
    | v => .ok [v]

/-- The value that an attribute path leads to; a default replaces what is undefined on the way. -/
def followPath (p : Powers) (default : Option Val) (v : Val) : List Val → Render Val
  | [] => pure v
  | part :: rest => do
    let w ← getItem p v part
    match w, default with
    | .undefined, some d => followPath p default d rest
    | w, _ => followPath p default w rest

end WizardLogic.Template
