import WizardLogic.Query.Function
import WizardLogic.Query.Parser
import WizardLogic.Slice

/-!
# Evaluating queries

An expression applied to a value yields a value: a path that does not exist yields null. Only
function calls, ordering a text against a number and slices by step zero can fail.

Truth is the query language's own: null, false and empty texts, lists and objects are false, and
zero is true. Equality compares numbers by value and never equates a number with a boolean at the
outermost level.
-/

namespace WizardLogic.Query

/-- Whether a value counts as false. -/
def isFalse : Value → Bool
  | .null => true
  | .bool b => !b
  | .str s => s.isEmpty
  | .list xs => xs.isEmpty
  | .obj es => es.isEmpty
  | _ => false

/-- Equality of two values: a boolean never equals a number. -/
def equal (a b : Value) : Bool :=
  match a, b with
  | .bool _, .int _ | .bool _, .float _ | .int _, .bool _ | .float _, .bool _ => false
  | a, b => a.looseEq b

/-- Whether a value can be ordered: a number or a text. -/
def isOrdered : Value → Bool
  | .int _ | .float _ | .str _ => true
  | _ => false

/-- The result of a comparison. Ordering anything but numbers and texts yields null. -/
def compareWith (op : Comparator) (a b : Value) : Except Failure Value :=
  match op with
  | .eq => .ok (.bool (equal a b))
  | .ne => .ok (.bool !(equal a b))
  | _ =>
    if !(isOrdered a && isOrdered b) then .ok .null
    else match order? a b with
      | none => .error (.fault .wrongKind)
      | some none => .ok (.bool false)
      | some (some o) =>
        .ok (.bool (match op with
          | .lt => o = .lt
          | .le => o != .gt
          | .gt => o = .gt
          | _ => o != .lt))

/-- The element at a position, counted from the end when negative. -/
def elementAt (xs : List Value) (n : Int) : Value :=
  let i := if n < 0 then n + xs.length else n
  if i < 0 then .null else xs.getD i.toNat .null

/-- The negation of a value; zero counts as true. -/
def negate : Value → Bool
  | .int _ => false
  | .float _ => false
  | v => !v.isTrue

mutual

/-- The value of an expression applied to a value. -/
def eval (bindings : Entries Value) : Expr → Value → Except Failure Value
  | .current, v => .ok v
  | .field name, v => .ok (v.field name)
  | .literal w, _ => .ok w
  | .index n, v =>
    match v with
    | .list xs => .ok (elementAt xs n)
    | _ => .ok .null
  | .slice start stop step, v =>
    match v with
    | .list xs =>
      let step := step.getD 1
      if step = 0 then .error (.fault .badValue) else .ok (.list (slice xs start stop step))
    | _ => .ok .null
  | .andThen first second, v => do eval bindings second (← eval bindings first v)
  | .indexed first second, v => do eval bindings second (← eval bindings first v)
  | .projection left right, v => do
    match ← eval bindings left v with
    | .list xs => return .list ((← xs.mapM (eval bindings right)).filter fun x => !x.isNull)
    | _ => return .null
  | .valueProjection left right, v => do
    match ← eval bindings left v with
    | .obj es =>
      let xs := es.map Prod.snd
      return .list ((← xs.mapM (eval bindings right)).filter fun x => !x.isNull)
    | _ => return .null
  | .filterProjection left right condition, v => do
    match ← eval bindings left v with
    | .list xs =>
      let chosen ← xs.mapM fun x => do
        if isFalse (← eval bindings condition x) then return .null else eval bindings right x
      return .list (chosen.filter fun x => !x.isNull)
    | _ => return .null
  | .flatten e, v => do
    match ← eval bindings e v with
    | .list xs =>
      return .list (xs.flatMap fun
        | .list ys => ys
        | x => [x])
    | _ => return .null
  | .comparison op left right, v => do
    let a ← eval bindings left v
    let b ← eval bindings right v
    compareWith op a b
  | .or left right, v => do
    let a ← eval bindings left v
    if isFalse a then eval bindings right v else return a
  | .and left right, v => do
    let a ← eval bindings left v
    if isFalse a then return a else eval bindings right v
  | .not e, v => do return .bool (negate (← eval bindings e v))
  | .multiList items, v =>
    if v.isNull then .ok .null else do return .list (← evalItems bindings items v)
  | .multiObject entries, v =>
    if v.isNull then .ok .null
    else do return .obj (Entries.ofList (← evalEntries bindings entries v))
  | .call name args, v => do call bindings name (← evalArgs bindings args v)
  | .reference _, _ => .error (.fault .wrongKind)

/-- The values of several expressions. -/
def evalItems (bindings : Entries Value) : List Expr → Value → Except Failure (List Value)
  | [], _ => .ok []
  | e :: es, v => do
    let x ← eval bindings e v
    let xs ← evalItems bindings es v
    return x :: xs

/-- The values of several named expressions. -/
def evalEntries (bindings : Entries Value) :
    List (String × Expr) → Value → Except Failure (List (Key × Value))
  | [], _ => .ok []
  | (k, e) :: es, v => do
    let x ← eval bindings e v
    let xs ← evalEntries bindings es v
    return (.str k, x) :: xs

/-- The arguments of a call. -/
def evalArgs (bindings : Entries Value) : List Expr → Value → Except Failure (List Arg)
  | [], _ => .ok []
  | .reference e :: es, v => do
    let xs ← evalArgs bindings es v
    return .mapping (eval bindings e) :: xs
  | e :: es, v => do
    let x ← eval bindings e v
    let xs ← evalArgs bindings es v
    return .value x :: xs

end

end WizardLogic.Query
