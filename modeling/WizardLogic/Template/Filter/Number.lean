import WizardLogic.Template.Percent
import WizardLogic.Template.TextMethod

/-!
# Filters of numbers

Reading numbers from values (`toDouble?`, `toInt`), rounding (`roundBy`), and a number of bytes in a
readable unit (`sizeText`).
-/

namespace WizardLogic.Template

/-- The floating-point number of a value or of a text; none if it is not one. -/
def toDouble? (v : Val) : Except Failure (Option Double) :=
  let read (cs : List Char) : Option Double := Number.readDouble? cs
  match v with
  | .undefined => invalid
  | .str s | .markup s => .ok (read s.toList)
  | .bytes bs => .ok (read (bs.map fun b => Char.ofNat b.toNat))
  | v =>
    match v.number? with
    | some n => do return some (← liftFault n.toDouble)
    | none => .ok none

/-- The digit value of a letter or digit in bases beyond ten. -/
def digitIn? (base : Nat) (c : Char) : Option Nat :=
  let n := c.toLower.toNat
  let d := if 48 ≤ n ∧ n ≤ 57 then n - 48 else if 97 ≤ n ∧ n ≤ 122 then n - 87 else 36
  if d < base then some d else none

/-- The base that a mark at the front of a number stands for. -/
def markedBase? (cs : List Char) : Option Nat :=
  match cs with
  | '0' :: c :: _ =>
    match c.toLower with
    | 'x' => some 16
    | 'o' => some 8
    | 'b' => some 2
    | _ => none
  | _ => none

/-- The integer that a text denotes in a base; base zero reads the base off the text. Underscores
may stand between digits and behind the mark of a base. -/
def readBase? (base : Nat) (s : String) : Option Int := do
  if base = 1 || 36 < base then none
  else if base = 10 then Number.readInt? s.toList
  else
    let (neg, body) := Number.takeSign (Number.trimmed s.toList)
    let marked := markedBase? body
    let actual := if base = 0 then marked.getD 10 else base
    let isMarked := marked = some actual
    let digits := if isMarked then body.drop 2 else body
    let digits := if isMarked && digits.head? = some '_' then digits.drop 1 else digits
    let digits ← Number.dropUnderscores? false digits
    let isBinary := actual = 2 || actual = 4 || actual = 8 || actual = 16 || actual = 32
    if digits.isEmpty || (!isBinary && Number.maxIntDigits < digits.length) then none
    else if base = 0 && !isMarked && digits.head? = some '0' && digits.any (· != '0') then none
    else
      let n ← digits.foldlM (fun n c => (digitIn? actual c).map (n * actual + ·)) 0
      return if neg then -(n : Int) else (n : Int)

/-- The integer that a value counts as, or the default. A text may also hold a number with a
fraction. -/
def toInt (v default base : Val) : Except Failure Val := do
  let fallback : Except Failure Val := do
    match ← toDouble? v with
    | some d =>
      match d.toInt? with
      | some n => return .int n
      | none => return default
    | none => return default
  match v with
  | .undefined => .error .invalid
  | .str s | .markup s =>
    match base.int? with
    | some b =>
      match (if b < 0 then none else readBase? b.toNat s) with
      | some n => return .int n
      | none => fallback
    | none => fallback
  | .float d =>
    match d.toInt? with
    | some n => return .int n
    | none => if d.isNan then return default else .error (.fault .overflow)
  | .bytes _ =>
    match integerFrom v with
    | .ok n => return .int n
    | .error _ => fallback
  | v =>
    match v.int? with
    | some n => return .int n
    | none => return default

/-- A number rounded to places, an exact half to the even neighbour. -/
def roundCommon (v : Val) (places : Int) : Except Failure Val :=
  match v.number? with
  | some (.int n) =>
    if 0 ≤ places then .ok (.int n)
    else
      let p := Nat.pow 10 (-places).toNat
      let r : Int := roundHalfEven n.natAbs p * p
      .ok (.int (if n < 0 then -r else r))
  | some (.float d) =>
    match d.roundPlaces? places with
    | some r => .ok (.float r)
    | none => .error (.fault .overflow)
  | none => invalid

/-- A number rounded to the nearest integer. -/
def roundWhole (v : Val) : Except Failure Val :=
  match v.number? with
  | some (.float d) =>
    match d.roundInt? with
    | some n => .ok (.int n)
    | none => if d.isNan then invalid else .error (.fault .overflow)
  | some (.int n) => .ok (.int n)
  | none => invalid

/-- A number rounded up or down at a power of ten. -/
def roundToward (up : Bool) (v precision : Val) : Except Failure Val := do
  match v.number?, precision.number? with
  | some n, some p =>
    let scale ← liftFault (Number.pow (.int 10) p)
    let scaled ← liftFault (n.mul scale)
    let whole ← match scaled with
      | .int k => pure k
      | .float d =>
        match (if up then d.ceil? else d.floor?) with
        | some k => pure k
        | none => if d.isNan then .error .invalid else .error (.fault .overflow)
    return .ofNumber (← liftFault ((Number.int whole).div scale))
  | _, _ => .error .invalid

/-- A number rounded to places in one of three ways. -/
def roundBy (v precision : Val) (method : String) : Except Failure Val := do
  match method with
  | "common" =>
    match precision with
    | .none => roundWhole v
    | places => roundCommon v (← intOf places)
  | "ceil" => roundToward true v precision
  | "floor" => roundToward false v precision
  | _ => .error .invalid

/-- A number of bytes in a readable unit. -/
def sizeText (bytes : Double) (binary : Bool) : Except Failure (List Char) := do
  let base : Int := if binary then 1024 else 1000
  let units : List String :=
    if binary then ["KiB", "MiB", "GiB", "TiB", "PiB", "EiB", "ZiB", "YiB"]
    else ["kB", "MB", "GB", "TB", "PB", "EB", "ZB", "YB"]
  let below (n : Int) : Bool := bytes.compareInt? n = some .lt
  let signed (d : Double) : List Char :=
    (if d.isNegative then ['-'] else []) ++ floatBody d 'f' 1 false
  let rec inUnits (power : Nat) : List String → List Char
    | [] => []
    | u :: us =>
      let unit := Int.pow base power
      if below unit || us.isEmpty then
        signed (((Double.ofInt base).mul bytes).div (Double.ofInt unit)) ++ ' ' :: u.toList
      else inUnits (power + 1) us
  if bytes.compareInt? 1 = some .eq then return "1 Byte".toList
  else if below base then return Json.intChars (← wholePart bytes) ++ " Bytes".toList
  else return inUnits 2 units

end WizardLogic.Template
