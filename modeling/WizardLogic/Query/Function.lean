import WizardLogic.Display
import WizardLogic.Fault
import WizardLogic.Number.Reading

/-!
# Query functions

The functions that queries may call (`apply`). Each has a list of parameters (`signature?`), and a
call with the wrong number or kinds of arguments fails before the function is applied (`call`). The
failure of an argument of the wrong kind shows the argument, which is a fault where that cannot be
written out (`mistyped`). Arguments that are expressions arrive as functions (`Arg.mapping`).
-/

namespace WizardLogic.Query

/-- How the evaluation of a query ends without a value. -/
inductive Failure
  /-- By a rule of the query language. -/
  | query
  | fault (f : Fault)
deriving DecidableEq, Repr

/-- An argument of a call: a value, or an unevaluated expression as the function it denotes. -/
inductive Arg
  | value (v : Value)
  | mapping (f : Value → Except Failure Value)

/-- The kinds of value that parameters distinguish. -/
inductive ValueType
  | null | boolean | number | string | array | object
deriving DecidableEq, Repr

/-- The kind of a value. -/
def typeOf : Value → ValueType
  | .null => .null
  | .bool _ => .boolean
  | .int _ => .number
  | .float _ => .number
  | .str _ => .string
  | .list _ => .array
  | .obj _ => .object

namespace ValueType

/-- The name of a kind. -/
def name : ValueType → String
  | null => "null"
  | boolean => "boolean"
  | number => "number"
  | string => "string"
  | array => "array"
  | object => "object"

end ValueType

/-! ### Numbers and order -/

/-- The order of two numbers or two strings; other pairs have none. Not a number is neither below
nor above anything. -/
def order? : Value → Value → Option (Option Ordering)
  | .int a, .int b => some (some (compare a b))
  | .float a, .float b => some (a.compare? b)
  | .float a, .int b => some (a.compareInt? b)
  | .int a, .float b => some ((b.compareInt? a).map Ordering.swap)
  | .str a, .str b => some (some (compare a b))
  | _, _ => none

/-- Whether the first value is below the second; a fault if they have no order. -/
def isBelow (a b : Value) : Except Failure Bool :=
  match order? a b with
  | some o => .ok (o = some .lt)
  | none => .error (.fault .wrongKind)

/-- The floating-point number of a number. -/
def toDouble : Value → Except Failure Double
  | .float d => .ok d
  | .int n => match Double.ofInt? n with
    | some d => .ok d
    | none => .error (.fault .overflow)
  | _ => .error (.fault .wrongKind)

/-- The sum of two numbers: an integer as long as both are. -/
def addNumbers : Value → Value → Except Failure Value
  | .int a, .int b => .ok (.int (a + b))
  | a, b => do return .float ((← toDouble a).add (← toDouble b))

/-- The sum of numbers from the left, starting with the integer zero. -/
def sum (vs : List Value) : Except Failure Value := vs.foldlM addNumbers (.int 0)

/-- The first element that no other surpasses. Each element is measured when its turn comes, right
before it is compared with the best one so far. -/
def bestBy (measure : Value → Except Failure Value) (above : Value → Value → Except Failure Bool) :
    Value × Value → List Value → Except Failure Value
  | best, [] => .ok best.1
  | best, x :: xs => do
    let m ← measure x
    if ← above m best.2 then bestBy measure above (x, m) xs else bestBy measure above best xs

/-- The element with the greatest measure, null if there is none; of equals the first. -/
def maximum (measure : Value → Except Failure Value) : List Value → Except Failure Value
  | [] => .ok .null
  | x :: xs => do bestBy measure (fun a b => isBelow b a) (x, ← measure x) xs

/-- The element with the least measure, null if there is none; of equals the first. -/
def minimum (measure : Value → Except Failure Value) : List Value → Except Failure Value
  | [] => .ok .null
  | x :: xs => do bestBy measure isBelow (x, ← measure x) xs

/-- Whether the first of two values of one ordered kind may stay before the second. -/
def inOrder (a b : Value) : Bool :=
  match order? b a with
  | some o => o != some .lt
  | none => true

/-- The elements sorted by their measures, equals in their old order. -/
def sortPairs (pairs : List (Value × Value)) : List Value :=
  (pairs.mergeSort fun a b => inOrder a.2 b.2).map Prod.fst

/-! ### Parameters -/

/-- What a function takes in one place. -/
inductive Parameter
  | any
  /-- A value of one of some kinds. -/
  | value (types : List ValueType)
  /-- A list of which all elements are of the same one of some kinds. -/
  | elements (types : List ValueType)
  /-- An unevaluated expression. -/
  | mapping

/-- The failure of a value of the wrong kind, which it shows. -/
def mistyped (v : Value) : Failure := if v.isWritable then .query else .fault .badValue

/-- Fails unless a value has one of the kinds. -/
def require (v : Value) (types : List ValueType) : Except Failure Unit :=
  if types.contains (typeOf v) then .ok () else .error (mistyped v)

/-- Fails unless all elements of a list have the same one of the kinds. -/
def requireElements (xs : List Value) (types : List ValueType) : Except Failure Unit :=
  match xs with
  | [] => .ok ()
  | x :: _ => do
    require x types
    xs.forM fun y => require y [typeOf x]

/-- Fails unless an argument is what a parameter takes. -/
def Parameter.check : Parameter → Arg → Except Failure Unit
  | any, _ => .ok ()
  | value types, .value v => require v types
  | elements types, .value v =>
    match v with
    | .list xs => requireElements xs types
    | v => .error (mistyped v)
  | mapping, .mapping _ => .ok ()
  | mapping, .value v => .error (mistyped v)
  | _, .mapping _ => .error .query

/-- Fails unless the arguments are what the parameters take, from the first one on. -/
def checkAll : List Parameter → List Arg → Except Failure Unit
  | p :: ps, a :: args => do
    p.check a
    checkAll ps args
  | _, _ => .ok ()

/-! ### Single functions -/

/-- The number a value denotes: numbers themselves, texts by their written form, null for the
rest. -/
def toNumber : Value → Value
  | .int n => .int n
  | .float d => .float d
  | .str s =>
    match Number.readInt? s.toList with
    | some n => .int n
    | none => match Number.readDouble? s.toList with
      | some d => .float d
      | none => .null
  | _ => .null

/-- The text of a value: itself, or compact JSON. -/
def toText : Value → Except Failure String
  | .str s => .ok s
  | v => if v.isWritable then .ok (Json.print .asciiTight v) else .error (.fault .badValue)

/-- Whether a text occurs in another. -/
def isInfix (needle hay : List Char) : Bool :=
  match hay with
  | [] => needle.isEmpty
  | _ :: rest => needle.isPrefixOf hay || isInfix needle rest

/-- Whether a list has an element that equals the value, or a text contains the text. -/
def contains (subject search : Value) : Except Failure Value :=
  match subject, search with
  | .list xs, v => .ok (.bool (xs.any fun x => x.looseEq v))
  | .str s, .str t => .ok (.bool (isInfix t.toList s.toList))
  | .str _, _ => .error (.fault .wrongKind)
  | _, _ => .error .query

/-- The two elements of a pair that an object can be made of. -/
def pair? (v : Value) : Except Failure (Value × Value) :=
  let elements : Option (List Value) :=
    match v with
    | .list xs => some xs
    | .str s => some (s.toList.map fun c => .str (String.ofList [c]))
    | .obj es => some (es.map fun (k, _) => .ofKey k)
    | _ => none
  match elements with
  | some [a, b] => .ok (a, b)
  | some _ => .error (.fault .badValue)
  | none => .error (.fault .wrongKind)

/-- An object with the entries of a further argument written into it. Besides an object this may
be a list of pairs. -/
def mergeInto (acc : Entries Value) (v : Value) : Except Failure (Entries Value) :=
  let step (acc : Entries Value) (v : Value) : Except Failure (Entries Value) := do
    let (k, w) ← pair? v
    match k.toKey? with
    | some k => return Entries.insert k w acc
    | none => .error (.fault .wrongKind)
  match v with
  | .obj es => .ok (Entries.merge acc es)
  | .list xs => xs.foldlM step acc
  | .str s => (s.toList.map fun c => Value.str (String.ofList [c])).foldlM step acc
  | _ => .error (.fault .wrongKind)

/-- A floating-point number made an integer by the given rounding. -/
def roundWith (round : Double → Option Int) : Value → Except Failure Value
  | .float d =>
    match round d with
    | some n => .ok (.int n)
    | none => .error (.fault (if d.isNan then .badValue else .overflow))
  | v => .ok v

/-- The measure of an element, which has to have one of the kinds. -/
def measure (f : Value → Except Failure Value) (types : List ValueType) (x : Value) :
    Except Failure Value := do
  let m ← f x
  require m types
  return m

/-- The texts of a list of strings. -/
def textsOf (xs : List Value) : List String :=
  xs.filterMap fun
    | .str s => some s
    | _ => none

/-! ### The table -/

/-- The parameters of a function, and whether further arguments may follow. -/
def signature? : String → Option (List Parameter × Bool)
  | "abs" | "ceil" | "floor" => some ([.value [.number]], false)
  | "avg" | "sum" => some ([.elements [.number]], false)
  | "contains" => some ([.value [.array, .string], .any], false)
  | "ends_with" | "starts_with" => some ([.value [.string], .value [.string]], false)
  | "join" => some ([.value [.string], .elements [.string]], false)
  | "keys" | "values" => some ([.value [.object]], false)
  | "length" => some ([.value [.string, .array, .object]], false)
  | "map" => some ([.mapping, .value [.array]], false)
  | "max" | "min" => some ([.elements [.number, .string]], false)
  | "max_by" | "min_by" | "sort_by" => some ([.value [.array], .mapping], false)
  | "merge" => some ([.value [.object]], true)
  | "not_null" => some ([.any], true)
  | "reverse" => some ([.value [.array, .string]], false)
  | "sort" => some ([.elements [.string, .number]], false)
  | "to_array" | "to_number" | "to_string" | "type" => some ([.any], false)
  | "var" => some ([.value [.string]], false)
  | _ => none

/-- What a function comes to for arguments that its parameters take; `bindings` are the named values
that `var` reads. -/
def apply (bindings : Entries Value) (name : String) (args : List Arg) : Except Failure Value :=
  match name, args with
  | "abs", [.value v] =>
    match v with
    | .int n => .ok (.int n.natAbs)
    | .float d => .ok (.float d.abs)
    | v => .ok v
  | "avg", [.value (.list [])] => .ok .null
  | "avg", [.value (.list xs)] => do
    let total ← toDouble (← sum xs)
    return .float (total.div (Double.ofInt xs.length))
  | "ceil", [.value v] => roundWith Double.ceil? v
  | "contains", [.value subject, .value search] => contains subject search
  | "contains", [.value subject, .mapping _] =>
    if typeOf subject = .array then .ok (.bool false) else .error (.fault .wrongKind)
  | "ends_with", [.value (.str s), .value (.str t)] => .ok (.bool (t.toList.isSuffixOf s.toList))
  | "floor", [.value v] => roundWith Double.floor? v
  | "join", [.value (.str s), .value (.list xs)] => .ok (.str (s.intercalate (textsOf xs)))
  | "keys", [.value (.obj es)] => .ok (.list (es.map fun (k, _) => .ofKey k))
  | "length", [.value v] =>
    match v with
    | .str s => .ok (.int s.length)
    | .list xs => .ok (.int xs.length)
    | .obj es => .ok (.int es.length)
    | _ => .error .query
  | "map", [.mapping f, .value (.list xs)] => do return .list (← xs.mapM f)
  | "max", [.value (.list xs)] => maximum pure xs
  | "max_by", [.value (.list xs), .mapping f] => maximum (measure f [.number, .string]) xs
  | "merge", .value (.obj es) :: rest => do
    let merged ← rest.foldlM (fun acc a => match a with
      | .value v => mergeInto acc v
      | .mapping _ => .error (.fault .wrongKind)) (Entries.merge [] es)
    return .obj merged
  | "min", [.value (.list xs)] => minimum pure xs
  | "min_by", [.value (.list xs), .mapping f] => minimum (measure f [.number, .string]) xs
  | "not_null", args =>
    .ok ((args.findSome? fun
      | .value .null => none
      | .value v => some v
      | .mapping _ => none).getD .null)
  | "reverse", [.value v] =>
    match v with
    | .str s => .ok (.str (String.ofList s.toList.reverse))
    | .list xs => .ok (.list xs.reverse)
    | _ => .error .query
  | "sort", [.value (.list xs)] => .ok (.list (sortPairs (xs.map fun x => (x, x))))
  | "sort_by", [.value (.list []), .mapping _] => .ok (.list [])
  | "sort_by", [.value (.list (x :: xs)), .mapping f] => do
    let first ← f x
    if [ValueType.number, .string].contains (typeOf first) then
      let pairs ← (x :: xs).mapM fun y => do return (y, ← measure f [typeOf first] y)
      return .list (sortPairs pairs)
    -- The failure shows the first element here, not the measure of the wrong kind.
    else .error (mistyped x)
  | "starts_with", [.value (.str s), .value (.str t)] => .ok (.bool (t.toList.isPrefixOf s.toList))
  | "sum", [.value (.list xs)] => sum xs
  | "to_array", [.value v] =>
    match v with
    | .list xs => .ok (.list xs)
    | v => .ok (.list [v])
  | "to_number", [.value v] => .ok (toNumber v)
  | "to_number", [.mapping _] => .error (.fault .wrongKind)
  | "to_string", [.value v] => (toText v).map Value.str
  | "type", [.value v] => .ok (.str (typeOf v).name)
  | "type", [.mapping _] => .ok .null
  | "values", [.value (.obj es)] => .ok (.list (es.map Prod.snd))
  | "var", [.value (.str s)] => .ok ((Entries.get? (.str s) bindings).getD .null)
  | _, _ => .error .query

/-- **A call of a function** with evaluated arguments. -/
def call (bindings : Entries Value) (name : String) (args : List Arg) : Except Failure Value :=
  match signature? name with
  | none => .error .query
  | some (parameters, more) =>
    if args.length = parameters.length || more && parameters.length < args.length then do
      checkAll parameters args
      apply bindings name args
    else .error .query

end WizardLogic.Query
