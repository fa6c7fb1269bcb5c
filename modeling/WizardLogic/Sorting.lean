/-!
# Sorting by questions

Sorting values that may have no common order: whether one is below another is a question that can
fail, and the answers need not fit together. What comes out is then decided by the questions that
are asked, so their order is fixed (`sortBy`). First the run at the front is found, ascending or
strictly descending; a descending one is turned round. Then every other element is put into the
sorted part by halving, behind the elements that it is not below.

Where the answers come from an order the result is in that order, and equals keep their places.
-/

namespace WizardLogic.Sorting

variable {α : Type} {m : Type → Type} [Monad m]

/-- The place of an element in a sorted part, between two places; `fuel` bounds the questions. -/
def placeFor (below : α → α → m Bool) (x : α) (sorted : Array α) : Nat → Nat → Nat → m Nat
  | 0, lo, _ => pure lo
  | fuel + 1, lo, hi =>
    if lo < hi then
      let middle := (lo + hi) / 2
      match sorted[middle]? with
      | some y => do
        if ← below x y then placeFor below x sorted fuel lo middle
        else placeFor below x sorted fuel (middle + 1) hi
      | none => pure lo
    else pure lo

/-- The elements put into a sorted part, one after the other. -/
def insertAll (below : α → α → m Bool) (sorted : Array α) : List α → m (Array α)
  | [] => pure sorted
  | x :: xs => do
    let i ← placeFor below x sorted (sorted.size + 1) 0 sorted.size
    insertAll below (sorted.toList.take i ++ x :: sorted.toList.drop i).toArray xs

/-- The elements that go on with a run behind its last one, and the rest. -/
def takeRun (below : α → α → m Bool) (descending : Bool) (last : α) : List α → m (List α × List α)
  | [] => pure ([], [])
  | x :: xs => do
    if (← below x last) = descending then
      let (run, rest) ← takeRun below descending x xs
      return (x :: run, rest)
    else return ([], x :: xs)

/-- **The elements sorted,** equals in their old order. -/
def sortBy (below : α → α → m Bool) : List α → m (List α)
  | [] => pure []
  | [x] => pure [x]
  | x :: y :: rest => do
    let descending ← below y x
    let (run, rest) ← takeRun below descending y rest
    let front := x :: y :: run
    let sorted ← insertAll below (if descending then front.reverse else front).toArray rest
    return sorted.toList

end WizardLogic.Sorting
