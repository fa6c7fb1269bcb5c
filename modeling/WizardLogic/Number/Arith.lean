import WizardLogic.Fault
import WizardLogic.Number.Double

/-!
# Mixed arithmetic

Numbers are integers of any size or floating-point numbers. An operation on two integers is exact
and yields an integer, except for division and negative powers; as soon as one operand is a
floating-point number the other is converted, which overflows when it is out of range.

Division and remainder are floored: the remainder has the sign of the divisor.
-/

namespace WizardLogic

/-- An integer or a floating-point number. -/
inductive Number
  | int (n : Int)
  | float (d : Double)
deriving DecidableEq, Inhabited

namespace Number

/-- The number as a floating-point number. -/
def toDouble : Number → Except Fault Double
  | float d => .ok d
  | int n =>
    match Double.ofInt? n with
    | some d => .ok d
    | none => .error .overflow

/-- Whether the number is zero. -/
def isZero : Number → Bool
  | int n => n = 0
  | float d => d.isZero

/-- An operation that is exact on integers and rounded on floating-point numbers. -/
def lift (onInt : Int → Int → Int) (onDouble : Double → Double → Double) :
    Number → Number → Except Fault Number
  | int a, int b => .ok (int (onInt a b))
  | a, b => do return float (onDouble (← a.toDouble) (← b.toDouble))

/-- Sum. -/
def add : Number → Number → Except Fault Number := lift (· + ·) Double.add

/-- Difference. -/
def sub : Number → Number → Except Fault Number := lift (· - ·) Double.sub

/-- Product. -/
def mul : Number → Number → Except Fault Number := lift (· * ·) Double.mul

/-- Quotient, always a floating-point number. The quotient of two integers is rounded once; zero
over a negative integer is negative zero. -/
def div (a b : Number) : Except Fault Number :=
  match a, b with
  | int x, int y =>
    if y = 0 then .error .divisionByZero
    else if x = 0 then .ok (float (Double.zero (y < 0)))
    else
      let d := Double.ofRatio ((x < 0) != (y < 0)) x.natAbs y.natAbs
      if d.isFinite then .ok (float d) else .error .overflow
  | a, b => do
    let x ← a.toDouble
    let y ← b.toDouble
    if y.isZero then .error .divisionByZero else return float (x.div y)

/-- Quotient rounded down. -/
def floorDiv (a b : Number) : Except Fault Number :=
  match a, b with
  | int x, int y => if y = 0 then .error .divisionByZero else .ok (int (Int.fdiv x y))
  | a, b => do
    let x ← a.toDouble
    let y ← b.toDouble
    if y.isZero then .error .divisionByZero else return float (x.floorDiv y)

/-- Remainder of the floored division. -/
def mod (a b : Number) : Except Fault Number :=
  match a, b with
  | int x, int y => if y = 0 then .error .divisionByZero else .ok (int (Int.fmod x y))
  | a, b => do
    let x ← a.toDouble
    let y ← b.toDouble
    if y.isZero then .error .divisionByZero else return float (x.floorRem y)

/-- Power of floating-point numbers. A negative base with a broken exponent has no real power, zero
has no negative power, and a finite base and exponent must not yield an infinity. -/
def powDouble (x y : Double) : Except Fault Number :=
  if x.isZero && y.isNegative && !y.isZero && y.isFinite then .error .divisionByZero
  else if x.isFinite && x.isNegative && !x.isZero && y.isFinite && !y.isIntegral then
    .error .wrongKind
  else
    let r := x.pow y
    if !r.isFinite && !r.isNan && x.isFinite && y.isFinite then .error .overflow
    else .ok (float r)

/-- Power. Integers with a negative exponent go over to floating-point numbers. -/
def pow (a b : Number) : Except Fault Number :=
  match a, b with
  | int x, int y =>
    if 0 ≤ y then .ok (int (Int.pow x y.toNat))
    else if x = 0 then .error .divisionByZero
    else do
      let x ← (int x).toDouble
      let y ← (int y).toDouble
      powDouble x y
  | a, b => do powDouble (← a.toDouble) (← b.toDouble)

/-- The number with the opposite sign. -/
def neg : Number → Number
  | int n => int (-n)
  | float d => float d.neg

/-- The number without sign. -/
def abs : Number → Number
  | int n => int n.natAbs
  | float d => float d.abs

/-- How two numbers compare by exact value; none if one is not a number. -/
def compare? : Number → Number → Option Ordering
  | int a, int b => some (compare a b)
  | float a, float b => a.compare? b
  | float a, int b => a.compareInt? b
  | int a, float b => (b.compareInt? a).map Ordering.swap

end Number

end WizardLogic
