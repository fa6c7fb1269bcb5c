/-!
# Slices

A slice takes the elements of a list from a start to a stop by steps. Positions below zero count
from the end, positions out of range are brought into it, and a negative step walks backwards; a
bound that is left out stands for the end where the walk begins or stops.
-/

namespace WizardLogic

/-- The first position of a slice and the one where it stops, brought into range. -/
def sliceBounds (length : Nat) (start stop : Option Int) (step : Int) : Int × Int :=
  let n : Int := length
  let lower : Int := if step < 0 then -1 else 0
  let upper : Int := if step < 0 then n - 1 else n
  let clamp (i : Int) : Int :=
    if i < 0 then max (i + n) lower else min i upper
  let first := (start.map clamp).getD (if step < 0 then upper else lower)
  let last := (stop.map clamp).getD (if step < 0 then lower else upper)
  (first, last)

/-- The elements at every `step`-th position from `i` on, before `stop`. -/
def sliceFrom {α : Type} (xs : List α) (i stop step : Int) : Nat → List α
  | 0 => []
  | fuel + 1 =>
    if (0 < step && i < stop) || (step < 0 && stop < i) then
      match xs[i.toNat]? with
      | some x => x :: sliceFrom xs (i + step) stop step fuel
      | none => []
    else []

/-- The elements of a slice with a step other than zero. -/
def slice {α : Type} (xs : List α) (start stop : Option Int) (step : Int) : List α :=
  let (first, last) := sliceBounds xs.length start stop step
  sliceFrom xs first last step xs.length

end WizardLogic
