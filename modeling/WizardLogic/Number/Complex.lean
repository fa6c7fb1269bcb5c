import WizardLogic.Number.Arith
import WizardLogic.Number.Shortest

/-!
# Complex numbers

A power of a negative number with a broken exponent is a complex number, so the arithmetic does not
end at the real ones. A `Complex` has two floating-point parts; its operations round each part on
its own. A power goes over the polar form, unless its exponent is a small whole number, where it is
a product.
-/

namespace WizardLogic

/-- A complex number by its real and its imaginary part. -/
structure Complex where
  re : Double
  im : Double
deriving DecidableEq, Inhabited

namespace Complex

/-- A real number as a complex one. -/
def ofDouble (d : Double) : Complex := ⟨d, Double.zero false⟩

/-- One. -/
def one : Complex := ofDouble (Double.ofInt 1)

/-- Whether the number is zero. -/
def isZero (z : Complex) : Bool := z.re.isZero && z.im.isZero

/-- Sum. -/
def add (z w : Complex) : Complex := ⟨z.re.add w.re, z.im.add w.im⟩

/-- Difference. -/
def sub (z w : Complex) : Complex := ⟨z.re.sub w.re, z.im.sub w.im⟩

/-- Product. -/
def mul (z w : Complex) : Complex :=
  ⟨(z.re.mul w.re).sub (z.im.mul w.im), (z.re.mul w.im).add (z.im.mul w.re)⟩

/-- The number with the opposite sign. -/
def neg (z : Complex) : Complex := ⟨z.re.neg, z.im.neg⟩

/-- Quotient; the greater part of the divisor is divided out first. -/
def div (z w : Complex) : Except Fault Complex :=
  if w.isZero then .error .divisionByZero
  else
    let flat := match w.re.abs.compare? w.im.abs with
      | some .lt => false
      | _ => true
    if flat then
      let ratio := w.im.div w.re
      let scale := w.re.add (w.im.mul ratio)
      .ok ⟨(z.re.add (z.im.mul ratio)).div scale, (z.im.sub (z.re.mul ratio)).div scale⟩
    else
      let ratio := w.re.div w.im
      let scale := (w.re.mul ratio).add w.im
      .ok ⟨((z.re.mul ratio).add z.im).div scale, ((z.im.mul ratio).sub z.re).div scale⟩

/-- The distance from zero. -/
def abs (z : Complex) : Double :=
  if z.im.isZero then z.re.abs
  else if z.re.isZero then z.im.abs
  else .ofFloat ((z.re.mul z.re).add (z.im.mul z.im)).toFloat.sqrt

/-- A number times so many equal factors; `fuel` bounds the number of squarings. -/
def timesPower : Nat → Complex → Complex → Nat → Complex
  | 0, acc, _, _ => acc
  | fuel + 1, acc, z, n =>
    if n = 0 then acc
    else timesPower fuel (if n % 2 = 1 then acc.mul z else acc) (z.mul z) (n / 2)

/-- The power by the polar form. -/
def powPolar (z w : Complex) : Complex :=
  let size := z.abs
  let angle := Float.atan2 z.im.toFloat z.re.toFloat
  let length := (size.pow w.re).toFloat
  let length := if w.im.isZero then length else length * Float.exp (-angle * w.im.toFloat)
  let phase := angle * w.re.toFloat
  let phase := if w.im.isZero then phase else phase + w.im.toFloat * Float.log size.toFloat
  ⟨.ofFloat (length * phase.cos), .ofFloat (length * phase.sin)⟩

/-- The greatest exponent that stands for a product. -/
def maxFactors : Nat := 100

/-- Power. -/
def pow (z w : Complex) : Except Fault Complex := do
  let whole : Option Int := if w.im.isZero && w.re.isIntegral then w.re.toInt? else none
  let r ← match whole with
    | some n =>
      if maxFactors < n.natAbs then pure (powPolar z w)
      else
        let p := timesPower n.natAbs one z n.natAbs
        if 0 < n then pure p else div one p
    | none =>
      if z.isZero then
        if w.re.isNegative || !w.im.isZero then .error .divisionByZero
        else pure (ofDouble (Double.zero false))
      else pure (powPolar z w)
  let endless : Double → Bool
    | .inf _ => true
    | _ => false
  if endless r.re || endless r.im then .error .overflow else return r

/-- The characters of a part: without a fraction if it is whole. -/
def partChars (d : Double) : List Char :=
  let cs := d.chars
  if cs.drop (cs.length - 2) = ['.', '0'] then cs.take (cs.length - 2) else cs

/-- The written form: the imaginary part alone if the other is zero, else both in parentheses. -/
def chars (z : Complex) : List Char :=
  let im := partChars z.im
  if z.re.isZero && !z.re.isNegative then im ++ ['j']
  else
    '(' :: (partChars z.re ++ (if im.head? = some '-' then im else '+' :: im) ++ ['j', ')'])

end Complex

end WizardLogic
