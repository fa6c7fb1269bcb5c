import Mathlib
import WizardLogic.Siblings

/-!
# The order of siblings is a linear one

The orders of siblings are integers and floating-point numbers, and the two kinds are compared by
exact value. So every order that is a number has a *rank* (`OrderKey.rank`) in one linear order: the
whole number of units that it comes to, or one of the two ends for the infinities. Comparing orders
is comparing ranks (`OrderKey.compare?_eq`), which no comparison after rounding could be.

From this follows what sorting does, without a look at how it is done: siblings whose orders are
pairwise different have only one order, so where they stood before does not matter
(`sortSiblings_eq_of_perm`).
-/

namespace WizardLogic

/-! ### The ranks of numbers -/

/-- The place of a number of units between the infinities. -/
def unitRank (n : ℤ) : WithBot (WithTop ℤ) := (n : WithTop ℤ)

theorem compare_unitRank (m n : ℤ) : compare (unitRank m) (unitRank n) = compare m n := by
  have hlt : ∀ {m n : ℤ}, m < n → unitRank m < unitRank n := fun h =>
    WithBot.coe_lt_coe.mpr (WithTop.coe_lt_coe.mpr h)
  rcases lt_trichotomy m n with h | rfl | h
  · rw [compare_lt_iff_lt.mpr h, compare_lt_iff_lt.mpr (hlt h)]
  · rw [compare_eq_iff_eq.mpr rfl, compare_eq_iff_eq.mpr rfl]
  · rw [compare_gt_iff_gt.mpr h, compare_gt_iff_gt.mpr (hlt h)]

theorem bot_lt_unitRank (n : ℤ) : ⊥ < unitRank n := WithBot.bot_lt_coe _

theorem unitRank_lt_top (n : ℤ) : unitRank n < ⊤ := WithBot.coe_lt_coe.mpr (WithTop.coe_lt_top n)

/-- The rank of an infinity. -/
def infinityRank (neg : Bool) : WithBot (WithTop ℤ) := if neg then ⊥ else ⊤

theorem compare_infinityRank_unitRank (neg : Bool) (n : ℤ) :
    compare (infinityRank neg) (unitRank n) = if neg then .lt else .gt := by
  cases neg with
  | false => exact compare_gt_iff_gt.mpr (unitRank_lt_top n)
  | true => exact compare_lt_iff_lt.mpr (bot_lt_unitRank n)

theorem compare_unitRank_infinityRank (n : ℤ) (neg : Bool) :
    compare (unitRank n) (infinityRank neg) = if neg then .gt else .lt := by
  cases neg with
  | false => exact compare_lt_iff_lt.mpr (unitRank_lt_top n)
  | true => exact compare_gt_iff_gt.mpr (bot_lt_unitRank n)

namespace Double

/-- The rank of a number that is one: how many units it comes to. -/
def rank : Double → WithBot (WithTop ℤ)
  | inf neg => infinityRank neg
  | d => unitRank d.units

theorem compare?_eq {a b : Double} (ha : a.isNan = false) (hb : b.isNan = false) :
    a.compare? b = some (compare a.rank b.rank) := by
  cases a with
  | nan => cases ha
  | inf s =>
    cases b with
    | nan => cases hb
    | inf t => cases s <;> cases t <;> decide
    | finite => exact congrArg some (compare_infinityRank_unitRank s _).symm
  | finite =>
    cases b with
    | nan => cases hb
    | inf t => exact congrArg some (compare_unitRank_infinityRank _ t).symm
    | finite => exact congrArg some (compare_unitRank _ _).symm

theorem compareInt?_eq {d : Double} (hd : d.isNan = false) (n : ℤ) :
    d.compareInt? n = some (compare d.rank (unitRank (n * unitsInOne))) := by
  cases d with
  | nan => cases hd
  | inf neg => exact congrArg some (compare_infinityRank_unitRank neg _).symm
  | finite => exact congrArg some (compare_unitRank _ _).symm

theorem unitsInOne_pos : 0 < unitsInOne := by
  -- The exponent is hidden, so that the power is not computed.
  unfold unitsInOne
  generalize 1074 = n
  exact Nat.two_pow_pos n

end Double

/-- Integers compare as the units that they come to. -/
theorem compare_mul_of_pos {one : ℤ} (h : 0 < one) (m n : ℤ) :
    compare (m * one) (n * one) = compare m n := by
  rcases lt_trichotomy m n with hmn | rfl | hmn
  · rw [compare_lt_iff_lt.mpr hmn, compare_lt_iff_lt.mpr (mul_lt_mul_of_pos_right hmn h)]
  · rw [compare_eq_iff_eq.mpr rfl, compare_eq_iff_eq.mpr rfl]
  · rw [compare_gt_iff_gt.mpr hmn, compare_gt_iff_gt.mpr (mul_lt_mul_of_pos_right hmn h)]

namespace OrderKey

/-- Whether an order is a number. -/
def isNumber : OrderKey → Bool
  | int _ => true
  | float d => !d.isNan

/-- **The rank of an order.** -/
def rank : OrderKey → WithBot (WithTop ℤ)
  | int n => unitRank (n * Double.unitsInOne)
  | float d => d.rank

/-- **Orders compare as their ranks.** -/
theorem compare?_eq {a b : OrderKey} (ha : a.isNumber = true) (hb : b.isNumber = true) :
    a.compare? b = some (compare a.rank b.rank) := by
  have hpos : (0 : ℤ) < (Double.unitsInOne : ℤ) := Int.natCast_pos.mpr Double.unitsInOne_pos
  cases a with
  | int m =>
    cases b with
    | int n =>
      rw [compare?, rank, rank, compare_unitRank, compare_mul_of_pos hpos]
    | float d =>
      rw [compare?, Double.compareInt?_eq (by simpa [isNumber] using hb), Option.map_some,
        ← Std.OrientedOrd.eq_swap]
      rfl
  | float d =>
    have hd : d.isNan = false := by simpa [isNumber] using ha
    cases b with
    | int n => exact Double.compareInt?_eq hd n
    | float d' => exact Double.compare?_eq hd (by simpa [isNumber] using hb)

/-- Of two orders the one with the lesser rank may come first. -/
theorem le_eq {a b : OrderKey} (ha : a.isNumber = true) (hb : b.isNumber = true) :
    a.le b = decide (a.rank ≤ b.rank) := by
  rw [le, compare?_eq hb ha]
  rcases lt_or_ge b.rank a.rank with h | h
  · simp [compare_lt_iff_lt.mpr h, h]
  · have hne : compare b.rank a.rank ≠ .lt := fun hc => not_lt.mpr h (compare_lt_iff_lt.mp hc)
    simp [hne, h]

end OrderKey

/-! ### Sorting by rank -/

/-- The rank of a sibling. -/
def Value.rank (v : Value) : WithBot (WithTop ℤ) := v.orderKey.rank

/-- Siblings whose orders are numbers are sorted by their ranks. -/
theorem sortSiblings_eq {items : List Value} (h : ∀ v ∈ items, v.orderKey.isNumber = true) :
    sortSiblings items = items.mergeSort fun a b => decide (a.rank ≤ b.rank) := by
  have hmap := List.map_mergeSort (r := fun a b : Value => a.orderKey.le b.orderKey)
    (s := fun a b : Value => decide (a.rank ≤ b.rank)) (f := id) (l := items)
    fun a ha b hb => OrderKey.le_eq (h a ha) (h b hb)
  rwa [List.map_id, List.map_id] at hmap

theorem sortSiblings_perm (items : List Value) : (sortSiblings items).Perm items :=
  List.mergeSort_perm items _

/-- **Siblings are run in ascending order.** -/
theorem pairwise_sortSiblings {items : List Value}
    (h : ∀ v ∈ items, v.orderKey.isNumber = true) :
    (sortSiblings items).Pairwise fun a b => a.rank ≤ b.rank := by
  rw [sortSiblings_eq h]
  have hsorted := @List.pairwise_mergeSort _ (fun a b : Value => decide (a.rank ≤ b.rank))
    (fun a b c hab hbc => decide_eq_true ((of_decide_eq_true hab).trans (of_decide_eq_true hbc)))
    (fun a b => by simpa using le_total a.rank b.rank) items
  exact hsorted.imp of_decide_eq_true

/-! ### Siblings of different orders -/

/-- Siblings that have a place of their own each: they are objects, and their orders are numbers of
which no two are equal. -/
structure Orderly (items : List Value) : Prop where
  isObject : ∀ v ∈ items, v.isObject = true
  isNumber : ∀ v ∈ items, v.orderKey.isNumber = true
  differ : items.Pairwise fun a b => a.orderKey.compare? b.orderKey ≠ some .eq

namespace Orderly

variable {items items' : List Value}

/-- No two siblings have one rank. -/
theorem rank_ne (h : Orderly items) : items.Pairwise fun a b => a.rank ≠ b.rank := by
  refine h.differ.imp_of_mem fun ha hb hne hrank => hne ?_
  rw [OrderKey.compare?_eq (h.isNumber _ ha) (h.isNumber _ hb)]
  exact congrArg some (compare_eq_iff_eq.mpr hrank)

/-- Of siblings with one rank there is only one. -/
theorem eq_of_rank_eq (h : Orderly items) {a b : Value} (ha : a ∈ items) (hb : b ∈ items)
    (hrank : a.rank = b.rank) : a = b := by
  by_contra hne
  have : Std.Symm fun a b : Value => a.rank ≠ b.rank := ⟨fun _ _ => Ne.symm⟩
  exact h.rank_ne.forall ha hb hne hrank

end Orderly

/-- **Siblings of different orders run in one order only,** wherever they stand. -/
theorem sortSiblings_eq_of_perm {items items' : List Value} (h : Orderly items)
    (hperm : items.Perm items') : sortSiblings items = sortSiblings items' := by
  have hnumber' : ∀ v ∈ items', v.orderKey.isNumber = true := fun v hv =>
    h.isNumber v (hperm.mem_iff.mpr hv)
  refine List.Perm.eq_of_pairwise (fun a b ha hb hab hba => ?_) (pairwise_sortSiblings h.isNumber)
    (pairwise_sortSiblings hnumber') ?_
  · refine h.eq_of_rank_eq ((sortSiblings_perm items).mem_iff.mp ha) ?_ (le_antisymm hab hba)
    exact hperm.mem_iff.mpr ((sortSiblings_perm items').mem_iff.mp hb)
  · exact (sortSiblings_perm items).trans (hperm.trans (sortSiblings_perm items').symm)

end WizardLogic
