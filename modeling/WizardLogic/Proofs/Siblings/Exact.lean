import Mathlib
import WizardLogic.Proofs.Run.Rearranged
import WizardLogic.Proofs.Siblings.Stable

/-!
# The order of siblings by exact numbers

Every order that is a number is one exactly: an integer of any size, a floating-point number
`± m * 2 ^ (q - 1074)`, or one of the two ends for the infinities (`Value.orderNumber`). What is
neither an integer nor a floating-point number orders a sibling as zero does. Ranks are these
numbers counted in units (`orderNumber_eq`), so ordering siblings by rank, as sorting does, is
ordering them by exact numbers, without any rounding.

Said in numbers, the siblings that a list has are the one stable and ascending arrangement of its
items (`siblingsOf_list_sorted`). So sorting takes a list apart wherever the numbers on the left are
at most those on the right.
-/

namespace WizardLogic

/-! ### The number of an order -/

/-- The exact number that a floating-point number is, between the infinities. What is not a number
has none, and zero stands in for it. -/
def Double.exact : Double → WithBot (WithTop ℚ)
  | nan => 0
  | inf neg => if neg then ⊥ else ⊤
  | finite neg m q _ =>
    (((if neg then -1 else 1) * m * 2 ^ ((q : ℤ) - (1074 : ℕ)) : ℚ) : WithTop ℚ)

/-- **The number that orders a sibling.** -/
def Value.orderNumber (v : Value) : WithBot (WithTop ℚ) :=
  match v.field "order" with
  | .int n => ((n : ℚ) : WithTop ℚ)
  | .float d => d.exact
  | _ => 0

/-- The number that a rank is, with `one` units in one. -/
def inOnes (one : ℕ) (ρ : WithBot (WithTop ℤ)) : WithBot (WithTop ℚ) :=
  ρ.map (WithTop.map fun n : ℤ => (n : ℚ) / one)

theorem strictMono_inOnes {one : ℕ} (h : 0 < one) : StrictMono (inOnes one) := by
  have hdiv : StrictMono fun n : ℤ => (n : ℚ) / one := fun m n hmn =>
    div_lt_div_of_pos_right (Int.cast_lt.mpr hmn) (Nat.cast_pos.mpr h)
  exact hdiv.withTop_map.withBot_map

theorem inOnes_unitRank (one : ℕ) (n : ℤ) :
    inOnes one (unitRank n) = (((n : ℚ) / one : ℚ) : WithTop ℚ) := rfl

theorem inOnes_infinityRank (one : ℕ) (neg : Bool) :
    inOnes one (infinityRank neg) = if neg then ⊥ else ⊤ := by
  cases neg <;> rfl

/-- A finite number is its units, divided by the number of units in one. -/
theorem Double.units_div (k : ℕ) {neg : Bool} {m q : ℕ} (h : IsCanonical m q) :
    ((finite neg m q h).units : ℚ) / (Nat.pow 2 k : ℕ) =
      (if neg then -1 else 1) * m * 2 ^ ((q : ℤ) - k) := by
  rw [zpow_sub₀ two_ne_zero, zpow_natCast, zpow_natCast, Nat.pow_eq]
  cases neg with
  | false =>
    rw [units, Nat.pow_eq, if_neg Bool.false_ne_true]
    push_cast
    ring
  | true =>
    rw [units, Nat.pow_eq, if_pos rfl]
    push_cast
    ring

theorem Double.exact_eq (d : Double) : d.exact = inOnes unitsInOne d.rank := by
  cases d with
  | nan =>
    change 0 = inOnes _ (unitRank 0)
    rw [inOnes_unitRank, Int.cast_zero, zero_div]
    rfl
  | inf neg => exact (inOnes_infinityRank _ neg).symm
  | finite neg m q h =>
    change _ = inOnes _ (unitRank (finite neg m q h).units)
    rw [exact, inOnes_unitRank]
    -- The exponent is hidden, so that the power is not computed.
    unfold unitsInOne
    generalize 1074 = k
    rw [units_div]

/-- **Ranks are numbers counted in units.** -/
theorem orderNumber_eq (v : Value) : v.orderNumber = inOnes Double.unitsInOne v.rank := by
  have hone : (Double.unitsInOne : ℚ) ≠ 0 := Nat.cast_ne_zero.mpr Double.unitsInOne_pos.ne'
  have hint (n : ℤ) : ((n : ℚ) : WithTop ℚ) =
      inOnes Double.unitsInOne (OrderKey.int n).rank := by
    rw [OrderKey.rank, inOnes_unitRank, Int.cast_mul, Int.cast_natCast,
      mul_div_cancel_right₀ _ hone]
  unfold Value.orderNumber Value.rank Value.orderKey
  cases v.field "order" with
  | int n => exact hint n
  | float d => exact d.exact_eq
  | _ => exact hint 0

theorem orderNumber_le_iff {v w : Value} : v.orderNumber ≤ w.orderNumber ↔ v.rank ≤ w.rank := by
  rw [orderNumber_eq, orderNumber_eq]
  exact (strictMono_inOnes Double.unitsInOne_pos).le_iff_le

/-- The order of a sibling is a number unless its field says that it is not one. -/
theorem isNumber_orderKey_iff {v : Value} :
    v.orderKey.isNumber = true ↔ v.field "order" ≠ .float .nan := by
  unfold Value.orderKey
  cases v.field "order" with
  | float d => cases d <;> simp [OrderKey.ofValue, OrderKey.isNumber, Double.isNan]
  | _ => simp [OrderKey.ofValue, OrderKey.isNumber]

/-! ### The one arrangement -/

/-- **A stable ascending arrangement of siblings**: the same siblings, each as often as before, in
ascending order of their numbers; and those of one number stand in the order in which they stood. -/
structure StablySorted (items sorted : List Value) : Prop where
  perm : sorted.Perm items
  ascending : sorted.Pairwise fun a b => a.orderNumber ≤ b.orderNumber
  stable : ∀ x, sorted.filter (fun v => v.orderNumber = x) =
    items.filter fun v => v.orderNumber = x

variable {items sorted : List Value}

theorem filter_orderNumber (ρ : WithBot (WithTop ℤ)) (items : List Value) :
    items.filter (fun v => v.orderNumber = inOnes Double.unitsInOne ρ) = atRank ρ items := by
  refine List.filter_congr fun v _ => decide_eq_decide.mpr ?_
  rw [orderNumber_eq]
  exact (strictMono_inOnes Double.unitsInOne_pos).injective.eq_iff

/-- Numbers and ranks tell the same siblings apart. -/
theorem stablySorted_iff : StablySorted items sorted ↔ AscendingStable items sorted := by
  constructor
  · intro h
    refine ⟨h.ascending.imp orderNumber_le_iff.mp, fun ρ => ?_⟩
    rw [← filter_orderNumber, ← filter_orderNumber]
    exact h.stable _
  · intro h
    refine ⟨h.perm, h.ascending.imp orderNumber_le_iff.mpr, fun x => ?_⟩
    by_cases hx : ∃ ρ, inOnes Double.unitsInOne ρ = x
    · obtain ⟨ρ, rfl⟩ := hx
      rw [filter_orderNumber, filter_orderNumber]
      exact h.stable ρ
    -- No sibling has a number that is not a whole number of units.
    · have hnone (items : List Value) : items.filter (fun v => v.orderNumber = x) = [] :=
        List.filter_eq_nil_iff.mpr fun v _ hv =>
          hx ⟨v.rank, (orderNumber_eq v).symm.trans (of_decide_eq_true hv)⟩
      rw [hnone, hnone]

/-- Arrangements of two lists are one of both lists together, if no number of the first is greater
than one of the second. -/
theorem AscendingStable.append {items items' sorted sorted' : List Value}
    (h : AscendingStable items sorted) (h' : AscendingStable items' sorted')
    (hle : ∀ v ∈ items, ∀ w ∈ items', v.rank ≤ w.rank) :
    AscendingStable (items ++ items') (sorted ++ sorted') where
  ascending := List.pairwise_append.mpr ⟨h.ascending, h'.ascending, fun v hv w hw =>
    hle v (h.perm.mem_iff.mp hv) w (h'.perm.mem_iff.mp hw)⟩
  stable ρ := by rw [atRank_append, atRank_append, h.stable, h'.stable]

/-- **Siblings are sorted.** If the items of a list are objects and no order among them is not a
number, then the siblings that it lists are a stable ascending arrangement of the items, and the
only one. If no number on the left of some place is greater than one on the right, then the siblings
are those of the part on the left, and after them those of the part on the right. -/
theorem siblingsOf_list_sorted (hobject : ∀ v ∈ items, v.isObject = true)
    (hnumber : ∀ v ∈ items, v.field "order" ≠ .float .nan) :
    (∃ sorted, siblingsOf (.list items) = .ok sorted ∧ StablySorted items sorted ∧
      ∀ other, StablySorted items other → other = sorted) ∧
    ∀ left right, items = left ++ right →
      (∀ v ∈ left, ∀ w ∈ right, v.orderNumber ≤ w.orderNumber) →
      ∃ first last, siblingsOf (.list left) = .ok first ∧ siblingsOf (.list right) = .ok last ∧
        siblingsOf (.list items) = .ok (first ++ last) := by
  have hsiblings {part : List Value} (hsub : part ⊆ items) :
      siblingsOf (.list part) = .ok (sortSiblings part) ∧
        AscendingStable part (sortSiblings part) :=
    ⟨(siblingsOf_list part).trans (if_pos (List.all_eq_true.mpr fun v hv => hobject v (hsub hv))),
      ascendingStable_sortSiblings fun v hv => isNumber_orderKey_iff.mpr (hnumber v (hsub hv))⟩
  obtain ⟨hitems, hsorted⟩ := hsiblings (List.Subset.refl items)
  refine ⟨⟨_, hitems, stablySorted_iff.mpr hsorted, fun other hother => ?_⟩, ?_⟩
  · exact (stablySorted_iff.mp hother).eq hsorted
  · rintro left right rfl hle
    obtain ⟨hleft, hfirst⟩ := hsiblings (List.subset_append_left left right)
    obtain ⟨hright, hlast⟩ := hsiblings (List.subset_append_right left right)
    refine ⟨_, _, hleft, hright, hitems.trans (congrArg Except.ok ?_)⟩
    exact hsorted.eq (hfirst.append hlast fun v hv w hw => orderNumber_le_iff.mp (hle v hv w hw))

/-! ### Numbers that rounding makes equal -/

/-- A sibling with an order. -/
def siblingAt (order : Value) : Value := .obj [(.str "order", order)]

/-- The floating-point number `2 ^ 53`, and a text. -/
def smallSiblings : List Value :=
  [siblingAt (.float (.finite false 4503599627370496 1075 (by decide))), siblingAt (.str "7")]

/-- Infinity, and the integer after `2 ^ 53`. -/
def largeSiblings : List Value :=
  [siblingAt (.float (.inf false)), siblingAt (.int 9007199254740993)]

/-- The integer comes after the floating-point number, wherever the two stand. -/
theorem siblingsOf_list_sorted_neighbours :
    (∀ v ∈ smallSiblings, ∀ w ∈ largeSiblings, v.orderNumber ≤ w.orderNumber) ∧
      ∃ first last, siblingsOf (.list smallSiblings) = .ok first ∧
        siblingsOf (.list largeSiblings) = .ok last ∧
        siblingsOf (.list (smallSiblings ++ largeSiblings)) = .ok (first ++ last) ∧
        StablySorted (smallSiblings ++ largeSiblings) (first ++ last) := by
  have hle : ∀ v ∈ smallSiblings, ∀ w ∈ largeSiblings, v.orderNumber ≤ w.orderNumber := by
    simp only [orderNumber_le_iff]
    decide +kernel
  have hnumber : ∀ v ∈ smallSiblings ++ largeSiblings, v.field "order" ≠ .float .nan := by
    simp only [← isNumber_orderKey_iff]
    decide +kernel
  obtain ⟨⟨sorted, hsorted, hstable, -⟩, happend⟩ :=
    siblingsOf_list_sorted (by decide) hnumber
  obtain ⟨first, last, hfirst, hlast, hall⟩ := happend _ _ rfl hle
  obtain rfl := Except.ok.inj (hsorted.symm.trans hall)
  exact ⟨hle, first, last, hfirst, hlast, hall, hstable⟩

end WizardLogic
