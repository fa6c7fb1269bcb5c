import WizardLogic.Number.Shortest

/-!
# Decimals with a set number of places

The digits of a floating-point number rounded to a number of places after the point, or to a number
of significant digits. The exact value is rounded once, an exact half to the even digit.
-/

namespace WizardLogic.Double

/-- Digits of a natural, filled with zeros on the left to a width. -/
def paddedDigits (width n : Nat) : List Char :=
  let ds := Nat.toDigits 10 n
  List.replicate (width - ds.length) '0' ++ ds

/-- The absolute value with so many places; `point` keeps a point without places. -/
def fixedChars (d : Double) (places : Nat) (point : Bool) : List Char :=
  let n := roundHalfEven (d.units.natAbs * Nat.pow 10 places) unitsInOne
  let ds := paddedDigits (places + 1) n
  let k := ds.length - places
  ds.take k ++ (if places = 0 then (if point then ['.'] else []) else '.' :: ds.drop k)

/-- The significant digits of the absolute value of a finite number, one more than `places`, and
the power of ten of the first. -/
def significant (d : Double) (places : Nat) : List Char × Int :=
  match d with
  | finite _ m q _ =>
    if m = 0 then (List.replicate (places + 1) '0', 0)
    else
      let e := leadingExponent m q
      let (num, den) := powTen (e - places)
      let n := roundHalfEven (m * Nat.pow 2 q * den) (unitsInOne * num)
      if n < Nat.pow 10 (places + 1) then (Nat.toDigits 10 n, e)
      else (Nat.toDigits 10 (n / 10), e + 1)
  | _ => ([], 0)

/-- An exponent with its sign and at least two digits. -/
def exponentChars (mark : Char) (e : Int) : List Char :=
  mark :: (if e < 0 then '-' else '+') :: paddedDigits 2 e.natAbs

/-- The absolute value in scientific form with so many places. -/
def scientificChars (d : Double) (places : Nat) (mark : Char) (point : Bool) : List Char :=
  let (ds, e) := d.significant places
  ds.take 1 ++ (if places = 0 then (if point then ['.'] else []) else '.' :: ds.drop 1) ++
    exponentChars mark e

/-- The digits without zeros at the end. -/
def dropTrailingZeros (ds : List Char) : List Char := (ds.reverse.dropWhile (· = '0')).reverse

/-- The absolute value with so many significant digits: positional while the exponent is at least
-4 and below a bound, else scientific. Zeros at the end are dropped unless `keep`. -/
def boundedChars (d : Double) (precision : Nat) (bound : Int) (mark : Char) (keep : Bool) :
    List Char :=
  let p := max precision 1
  let (ds, e) := d.significant (p - 1)
  let withPoint (whole fraction : List Char) : List Char :=
    let fraction := if keep then fraction else dropTrailingZeros fraction
    if fraction.isEmpty && !keep then whole else whole ++ '.' :: fraction
  if -4 ≤ e ∧ e < bound then
    if e < 0 then withPoint ['0'] (List.replicate (-e - 1).toNat '0' ++ ds)
    else withPoint (ds.take (e.toNat + 1)) (ds.drop (e.toNat + 1))
  else withPoint (ds.take 1) (ds.drop 1) ++ exponentChars mark e

/-- The absolute value with so many significant digits, positional while the exponent is below
their number. -/
def generalChars (d : Double) (precision : Nat) (mark : Char) (keep : Bool) : List Char :=
  boundedChars d precision (max precision 1 : Nat) mark keep

end WizardLogic.Double
