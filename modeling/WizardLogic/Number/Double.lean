/-!
# Binary64 numbers

A `Double` is a 64-bit binary floating-point number given by what it *is* rather than by its
bits: not a number, an infinity of either sign, or a finite number with a sign, a mantissa below
`2 ^ 53` and an exponent.

Every finite number of the format is a multiple of `2 ^ -1074`, so the exponent is counted from
there: `finite neg m q` stands for `± m * 2 ^ q` **units** of `2 ^ -1074`. All arithmetic is then
exact arithmetic on whole numbers of units, followed by one rounding step, `Double.ofQuotient`,
which rounds a quotient of two naturals to the nearest number of the format and lets a tie go to
the even mantissa. The representation is canonical (`Double.IsCanonical`): two values with the
same sign, mantissa and exponent are the same number and conversely, so that equality is decidable
by comparing them.
-/

namespace WizardLogic

/-- A mantissa and an exponent are **canonical** when the mantissa has at most 53 bits, the
exponent is in range, and the mantissa is as large as it can be: only at the least exponent may it
have fewer than 53 bits. -/
abbrev Double.IsCanonical (m q : Nat) : Prop :=
  m < Nat.pow 2 53 ∧ q ≤ 2045 ∧ (q = 0 ∨ Nat.pow 2 52 ≤ m)

/-- A 64-bit binary floating-point number. -/
inductive Double
  /-- Not a number; there is only one. -/
  | nan
  /-- An infinity, negative or not. -/
  | inf (neg : Bool)
  /-- The number `± m * 2 ^ (q - 1074)`; zero has a sign. -/
  | finite (neg : Bool) (m q : Nat) (canonical : Double.IsCanonical m q)
deriving DecidableEq

/-- The quotient of two naturals rounded to the nearest natural, a half to the even one. -/
def roundHalfEven (num den : Nat) : Nat :=
  let k := num / den
  let r := num % den
  if 2 * r < den then k else if den < 2 * r then k + 1 else k + k % 2

namespace Double

/-- The number of units in one: `2 ^ 1074`. -/
abbrev unitsInOne : Nat := Nat.pow 2 1074

/-- Zero with the given sign. -/
def zero (neg : Bool) : Double := finite neg 0 0 (by decide)

instance : Inhabited Double := ⟨zero false⟩

/-- The number with this sign, mantissa and exponent, or the infinity of that sign when the
exponent has left the range. -/
def pack (neg : Bool) (m q : Nat) : Double :=
  if h : IsCanonical m q then finite neg m q h else inf neg

/-- The number nearest to `num / den` units, a tie going to the even mantissa. -/
def ofQuotient (neg : Bool) (num den : Nat) : Double :=
  let q := (num / den).log2 - 52
  let m := roundHalfEven num (den * Nat.pow 2 q)
  if m < Nat.pow 2 53 then pack neg m q else pack neg (m / 2) (q + 1)

/-- The number nearest to the quotient of two naturals. -/
def ofRatio (neg : Bool) (num den : Nat) : Double :=
  ofQuotient neg (num * unitsInOne) den

/-- The number nearest to a whole number of units; a zero takes the given sign. -/
def ofUnits (zeroNeg : Bool) (u : Int) : Double :=
  if u = 0 then zero zeroNeg else ofQuotient (u < 0) u.natAbs 1

/-- The number nearest to `± c * 10 ^ e`. Exponents far out of range are settled without
computing the power. -/
def ofDecimal (neg : Bool) (c : Nat) (e : Int) : Double :=
  if c = 0 then zero neg
  else
    let top : Int := (c.log2 : Int) * 30103 / 100000 + e
    if top > 400 then inf neg
    else if top < -400 then zero neg
    else if 0 ≤ e then ofRatio neg (c * Nat.pow 10 e.toNat) 1
    else ofRatio neg c (Nat.pow 10 (-e).toNat)

/-- The number nearest to an integer; possibly an infinity. -/
def ofInt (n : Int) : Double :=
  if n = 0 then zero false else ofRatio (n < 0) n.natAbs 1

/-- The number nearest to an integer, if it is within the finite range. -/
def ofInt? (n : Int) : Option Double :=
  match ofInt n with
  | inf _ => none
  | d => some d

/-- The signed number of units of a finite number; zero for the others. -/
def units : Double → Int
  | finite true m q _ => -((m * Nat.pow 2 q : Nat) : Int)
  | finite false m q _ => ((m * Nat.pow 2 q : Nat) : Int)
  | _ => 0

/-- Whether the sign is negative; not a number has no sign. -/
def isNegative : Double → Bool
  | nan => false
  | inf neg => neg
  | finite neg _ _ _ => neg

/-- Whether this is not a number. -/
def isNan : Double → Bool
  | nan => true
  | _ => false

/-- Whether this is neither an infinity nor not a number. -/
def isFinite : Double → Bool
  | finite _ _ _ _ => true
  | _ => false

/-- Whether this is a zero of either sign. -/
def isZero : Double → Bool
  | finite _ 0 _ _ => true
  | _ => false

/-- Whether this is a finite whole number. -/
def isIntegral (d : Double) : Bool :=
  d.isFinite && d.units % (unitsInOne : Int) = 0

/-- The number with the sign removed. -/
def abs : Double → Double
  | nan => nan
  | inf _ => inf false
  | finite _ m q h => finite false m q h

/-- The number with the opposite sign. -/
def neg : Double → Double
  | nan => nan
  | inf s => inf !s
  | finite s m q h => finite (!s) m q h

/-! ### Order -/

/-- The order of two numbers, none when one of them is not a number. The two zeros are equal. -/
def compare? : Double → Double → Option Ordering
  | nan, _ => none
  | _, nan => none
  | inf a, inf b => some (if a = b then .eq else if a then .lt else .gt)
  | inf a, _ => some (if a then .lt else .gt)
  | _, inf b => some (if b then .gt else .lt)
  | x, y => some (compare x.units y.units)

/-- The order of a number and an integer by exact value. -/
def compareInt? : Double → Int → Option Ordering
  | nan, _ => none
  | inf a, _ => some (if a then .lt else .gt)
  | x, n => some (compare x.units (n * unitsInOne))

/-! ### Arithmetic -/

/-- Sum, rounded to nearest. -/
def add : Double → Double → Double
  | nan, _ => nan
  | _, nan => nan
  | inf a, inf b => if a = b then inf a else nan
  | inf a, _ => inf a
  | _, inf b => inf b
  | x, y =>
    if x.isZero && y.isZero then zero (x.isNegative && y.isNegative)
    else ofUnits false (x.units + y.units)

/-- Difference, rounded to nearest. -/
def sub (x y : Double) : Double := x.add y.neg

/-- Product, rounded to nearest. -/
def mul : Double → Double → Double
  | nan, _ => nan
  | _, nan => nan
  | inf a, y => if y.isZero then nan else inf (a != y.isNegative)
  | x, inf b => if x.isZero then nan else inf (x.isNegative != b)
  | x, y =>
    let s := x.isNegative != y.isNegative
    if x.isZero || y.isZero then zero s
    else ofQuotient s (x.units.natAbs * y.units.natAbs) unitsInOne

/-- Quotient, rounded to nearest; a zero divisor gives an infinity, or nan. -/
def div : Double → Double → Double
  | nan, _ => nan
  | _, nan => nan
  | inf _, inf _ => nan
  | inf a, y => inf (a != y.isNegative)
  | x, inf b => zero (x.isNegative != b)
  | x, y =>
    let s := x.isNegative != y.isNegative
    if y.isZero then (if x.isZero then nan else inf s)
    else if x.isZero then zero s
    else ofQuotient s (x.units.natAbs * unitsInOne) y.units.natAbs

/-- The exact remainder of a division rounded toward zero, with the sign of the dividend. -/
def truncRem : Double → Double → Double
  | nan, _ => nan
  | _, nan => nan
  | inf _, _ => nan
  | x, inf _ => x
  | x, y =>
    if y.isZero then nan
    else ofUnits x.isNegative (Int.tmod x.units y.units)

/-- The whole part toward zero of a finite number. -/
def toInt? (d : Double) : Option Int :=
  if d.isFinite then some (Int.tdiv d.units unitsInOne) else none

/-- The greatest integer that is not above a finite number. -/
def floor? (d : Double) : Option Int :=
  if d.isFinite then some (Int.fdiv d.units unitsInOne) else none

/-- The least integer that is not below a finite number. -/
def ceil? (d : Double) : Option Int :=
  if d.isFinite then some (-(Int.fdiv (-d.units) unitsInOne)) else none

/-- The greatest whole number that is not above the number, keeping the sign of a zero. -/
def floorValue (d : Double) : Double :=
  match d.floor? with
  | some 0 => zero d.isNegative
  | some n => ofInt n
  | none => d

/-- The remainder of a floored division: it has the sign of the divisor, also when it is zero. -/
def floorRem (x y : Double) : Double :=
  let r := truncRem x y
  if r.isZero then zero y.isNegative
  else if r.isNan then r
  else if y.isNegative != r.isNegative then r.add y
  else r

/-- Floored division: the quotient of what the remainder leaves, rounded down to a whole
number. -/
def floorDiv (x y : Double) : Double :=
  let r := truncRem x y
  let q := (x.sub r).div y
  let q := if r.isZero || r.isNan || (y.isNegative == r.isNegative) then q
    else q.sub (ofInt 1)
  if q.isZero then zero (x.div y).isNegative
  else
    let f := q.floorValue
    match (q.sub f).compare? (ofRatio false 1 2) with
    | some .gt => f.add (ofInt 1)
    | _ => f

/-! ### Powers

Powers are the one operation whose last digit is the platform's: they go through the machine's
own binary64 numbers. -/

/-- The bit pattern of the number. -/
def toBits : Double → UInt64
  | nan => 0x7ff8000000000000
  | inf neg => if neg then 0xfff0000000000000 else 0x7ff0000000000000
  | finite neg m q _ =>
    let sign : Nat := if neg then Nat.pow 2 63 else 0
    let rest : Nat := if m < Nat.pow 2 52 then m else (q + 1) * Nat.pow 2 52 + (m - Nat.pow 2 52)
    (sign + rest).toUInt64

/-- The number of a bit pattern. -/
def ofBits (b : UInt64) : Double :=
  let n := b.toNat
  let neg := n / Nat.pow 2 63 = 1
  let e := n / Nat.pow 2 52 % Nat.pow 2 11
  let m := n % Nat.pow 2 52
  if e = 2047 then (if m = 0 then inf neg else nan)
  else if e = 0 then pack neg m 0
  else pack neg (m + Nat.pow 2 52) (e - 1)

/-- The machine's number. -/
def toFloat (d : Double) : Float := Float.ofBits d.toBits

/-- The number that the machine's number is. -/
def ofFloat (f : Float) : Double := ofBits f.toBits

/-- The power of two machine numbers. -/
def pow (x y : Double) : Double := ofFloat (Float.pow x.toFloat y.toFloat)

/-! ### Rounding to decimal places -/

/-- The number rounded to the nearest multiple of `10 ^ -places`, where an exact half goes to the
even multiple; `none` if the result leaves the finite range. -/
def roundPlaces? (d : Double) (places : Int) : Option Double :=
  if !d.isFinite || places > 400 then some d
  else if places < -400 then some (zero d.isNegative)
  else
    let u := d.units.natAbs
    let r :=
      if 0 ≤ places then
        let p := Nat.pow 10 places.toNat
        ofRatio d.isNegative (roundHalfEven (u * p) unitsInOne) p
      else
        let p := Nat.pow 10 (-places).toNat
        ofRatio d.isNegative (roundHalfEven u (unitsInOne * p) * p) 1
    if r.isFinite then some r else none

/-- The nearest integer to a finite number, a half to the even one. -/
def roundInt? (d : Double) : Option Int :=
  if d.isFinite then
    let n : Int := roundHalfEven d.units.natAbs unitsInOne
    some (if d.isNegative then -n else n)
  else none

end Double

end WizardLogic
