import WizardLogic.Number.Double

/-!
# The shortest decimal of a number

The text of a binary64 number has the fewest significant digits that read back to the same number,
and among the decimals with that many digits the nearest one, where of two equally near ones it has
the even last digit. The search is exact: for one digit,
two digits, up to seventeen, it looks at the two neighbours of the number on that decimal grid
(`Double.decimalOn?`) and asks whether they lie in the interval of reals that round to the number.
If any point of a grid lies there, so does one of these two.

The layout (`Double.text`) is positional while the decimal exponent is between -4 and 15, and
scientific with at least two exponent digits otherwise. Whole numbers end in `.0`.
-/

namespace WizardLogic

/-- A nonzero decimal: the digits of `coefficient`, the first of which stands at `10 ^ exponent`. -/
structure Decimal where
  /-- The significant digits as one natural. -/
  coefficient : Nat
  /-- The power of ten of the last digit. -/
  scale : Int
deriving DecidableEq, Repr

namespace Decimal

/-- The digits, most significant first. -/
def digits (d : Decimal) : List Char := Nat.toDigits 10 d.coefficient

/-- The power of ten of the first digit. -/
def exponent (d : Decimal) : Int := d.scale + (d.digits.length : Int) - 1

/-- The same number without trailing zeros in its coefficient; `fuel` bounds their number. -/
def trimZeros : Nat → Decimal → Decimal
  | 0, d => d
  | fuel + 1, d =>
    if d.coefficient % 10 = 0 then trimZeros fuel ⟨d.coefficient / 10, d.scale + 1⟩ else d

end Decimal

/-- The power of ten with an integer exponent, as numerator and denominator. -/
def powTen (e : Int) : Nat × Nat :=
  if 0 ≤ e then (Nat.pow 10 e.toNat, 1) else (1, Nat.pow 10 (-e).toNat)

namespace Double

/-- The ends and the middle of the interval that rounds to `m * 2 ^ q` units, in quarters of the
last place: below a power of two the neighbour is only half as far. -/
def roundingInterval (m q : Nat) : Nat × Nat × Nat :=
  let below := if m = Nat.pow 2 52 ∧ 0 < q then 4 * m - 1 else 4 * m - 2
  (below, 4 * m, 4 * m + 2)

/-- The decimal nearest to `m * 2 ^ q` units among those whose last digit stands at
`10 ^ scale`, if it rounds to that number. -/
def decimalOn? (m q : Nat) (scale : Int) : Option Decimal :=
  let (num, den) := powTen scale
  -- `x` quarters of the last place against `c * 10 ^ scale`: compare `x * a` with `c * b`
  let a := Nat.pow 2 q * den
  let b := num * (4 * unitsInOne)
  let (lo, mid, hi) := roundingInterval m q
  let fits (c : Nat) : Bool :=
    if m % 2 = 0 then lo * a ≤ c * b && c * b ≤ hi * a else lo * a < c * b && c * b < hi * a
  let c := mid * a / b
  let down := fits c && 0 < c
  let up := fits (c + 1)
  let twice := 2 * (mid * a)
  let half := (2 * c + 1) * b
  let nearDown := twice < half || (twice = half && c % 2 = 0)
  if down && (nearDown || !up) then some ⟨c, scale⟩
  else if up then some ⟨c + 1, scale⟩
  else none

/-- The exponent of the leading decimal digit of `m * 2 ^ q` units: an estimate from the binary
exponent, put right by comparison. -/
def leadingExponent (m q : Nat) : Int :=
  let e : Int := (((m.log2 + q : Nat) : Int) - 1074) * 30103 / 100000
  let atLeast (k : Int) : Bool :=
    let (num, den) := powTen k
    num * unitsInOne ≤ m * Nat.pow 2 q * den
  if atLeast (e + 1) then e + 1 else if atLeast e then e else e - 1

/-- The shortest decimal that rounds to `m * 2 ^ q` units, and the nearest of those. Seventeen
digits always suffice. -/
def shortest (m q : Nat) : Decimal :=
  let e := leadingExponent m q
  let found := (List.range 17).findSome? fun (k : Nat) => decimalOn? m q (e - (k : Int))
  (found.getD ⟨m * Nat.pow 2 q, -1074⟩).trimZeros 400

/-- The layout of a decimal: positional for exponents from -4 to 15, else scientific. -/
def layout (d : Decimal) : List Char :=
  let ds := d.digits
  let e := d.exponent
  if -4 ≤ e ∧ e < 16 then
    if e < 0 then '0' :: '.' :: (List.replicate (-e - 1).toNat '0' ++ ds)
    else if 0 ≤ d.scale then ds ++ List.replicate d.scale.toNat '0' ++ ['.', '0']
    else
      let n := (e + 1).toNat
      ds.take n ++ '.' :: ds.drop n
  else
    let point := if ds.length ≤ 1 then [] else '.' :: ds.drop 1
    let exp := Nat.toDigits 10 e.natAbs
    let exp := if exp.length < 2 then '0' :: exp else exp
    ds.take 1 ++ point ++ 'e' :: (if e < 0 then '-' else '+') :: exp

/-- The text of a number. -/
def chars : Double → List Char
  | nan => ['n', 'a', 'n']
  | inf neg => (if neg then ['-'] else []) ++ ['i', 'n', 'f']
  | finite neg m q _ =>
    (if neg then ['-'] else []) ++
      (if m = 0 then ['0', '.', '0'] else layout (shortest m q))

/-- The text of a number. -/
def text (d : Double) : String := String.ofList d.chars

end Double

end WizardLogic
