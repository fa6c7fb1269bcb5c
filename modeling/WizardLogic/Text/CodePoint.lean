/-!
# Tables of code points

Properties of characters are given as lists of runs of code points. A run `(first, last)` holds
every code point from `first` to `last`; a run with a step, `(first, last, step)`, holds every
`step`-th of them; a mapping run `(first, last, step, shift)` sends each of its code points to the
one `shift` further on.
-/

namespace WizardLogic.Text

/-- Whether a code point lies in one of the runs. -/
def inRuns (runs : List (Nat × Nat)) (c : Char) : Bool :=
  let n := c.toNat
  runs.any fun (first, last) => first ≤ n && n ≤ last

/-- Whether a code point lies in one of the stepped runs. -/
def inSteppedRuns (runs : List (Nat × Nat × Nat)) (c : Char) : Bool :=
  let n := c.toNat
  runs.any fun (first, last, step) => first ≤ n && n ≤ last && (n - first) % step = 0

/-- The code point that the first fitting mapping run sends a code point to. -/
def shiftedBy? (runs : List (Nat × Nat × Nat × Int)) (c : Char) : Option Char :=
  let n := c.toNat
  runs.findSome? fun (first, last, step, shift) =>
    if first ≤ n && n ≤ last && (n - first) % step = 0 then
      some (Char.ofNat ((n : Int) + shift).toNat)
    else none

/-- The characters a code point expands to, if the table lists it. -/
def expansion? (table : List (Nat × List Nat)) (c : Char) : Option (List Char) :=
  (table.lookup c.toNat).map (List.map Char.ofNat)

end WizardLogic.Text
