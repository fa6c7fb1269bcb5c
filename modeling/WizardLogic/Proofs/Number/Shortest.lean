import Mathlib
import WizardLogic.Proofs.Number.Rounding

/-!
# The shortest decimal reads back

The search for the shortest decimal of a number goes through the decimal grids from one digit to
seventeen and stops at the first on which a neighbour of the number rounds to it. This file shows
that it always stops: on the grid of seventeen digits a step is shorter than the interval that rounds
to the number, so that one of the two neighbours has to lie in it (`Double.exists_decimalOn?`). Which
grids these are depends on the exponent of the leading digit, which is estimated from the binary
exponent; that the estimate is off by one at most is checked for all binary exponents there are
(`Double.estimate_bounds`).

The main result is `Double.shortest_rounds`: the decimal that is found rounds to the number, and it
has no more digits than the reader can take exactly.
-/

namespace WizardLogic

/-- The exact number of units of a decimal. -/
def Decimal.units (d : Decimal) : ℚ := Double.decimalUnits d.coefficient d.scale

/-! ### Powers of ten -/

theorem powTen_snd_pos (e : ℤ) : 0 < (powTen e).2 := by
  unfold powTen
  split
  · exact Nat.one_pos
  · exact Nat.pow_pos (by norm_num)

theorem powTen_eq (e : ℤ) : ((powTen e).1 : ℚ) = 10 ^ e * (powTen e).2 := by
  unfold powTen
  split
  · next h =>
    obtain ⟨n, rfl⟩ : ∃ n : ℕ, e = n := ⟨e.toNat, by omega⟩
    rw [zpow_natCast, Nat.cast_one, mul_one]
    exact Nat.cast_pow 10 n
  · next h =>
    obtain ⟨n, rfl⟩ : ∃ n : ℕ, e = -n := ⟨(-e).toNat, by omega⟩
    have hn : ((Nat.pow 10 n : ℕ) : ℚ) = 10 ^ n := Nat.cast_pow 10 n
    rw [neg_neg, Int.toNat_natCast, hn, zpow_neg, zpow_natCast, Nat.cast_one]
    field_simp

namespace Double

variable {m q c n : ℕ} {e scale : ℤ} {d : Decimal}

theorem decimalUnits_eq_mul (c : ℕ) (e : ℤ) : decimalUnits c e = c * decimalUnits 1 e := by
  unfold decimalUnits
  push_cast
  ring

theorem decimalUnits_one_pos (e : ℤ) : 0 < decimalUnits 1 e := by
  have := oneUnits_pos
  unfold decimalUnits
  positivity

theorem decimalUnits_one_mono {e e' : ℤ} (h : e ≤ e') : decimalUnits 1 e ≤ decimalUnits 1 e' := by
  have hpow : (10 : ℚ) ^ e ≤ 10 ^ e' := zpow_le_zpow_right₀ (by norm_num) h
  rw [decimalUnits, decimalUnits]
  exact mul_le_mul_of_nonneg_right (mul_le_mul_of_nonneg_left hpow (by norm_num)) oneUnits_pos.le

/-- A power of ten in units, cleared of its denominator. -/
theorem powTen_units (e : ℤ) :
    (((powTen e).1 * unitsInOne : ℕ) : ℚ) = decimalUnits 1 e * (powTen e).2 := by
  rw [natCast_mul_unitsInOne, powTen_eq, decimalUnits, Nat.cast_one]
  ring

/-! ### The neighbours on a grid -/

/-- The number of units of a grid point, four times and cleared of its denominator. -/
theorem grid_units (c : ℕ) (scale : ℤ) :
    ((c * ((powTen scale).1 * (4 * unitsInOne)) : ℕ) : ℚ) =
      4 * decimalUnits c scale * (powTen scale).2 := by
  have h := powTen_units scale
  rw [decimalUnits_eq_mul]
  -- The number of units in one is hidden, so that it is not computed.
  generalize unitsInOne = one at h ⊢
  calc ((c * ((powTen scale).1 * (4 * one)) : ℕ) : ℚ)
      = 4 * c * ((powTen scale).1 * one : ℕ) := by push_cast; ring
    _ = 4 * (c * decimalUnits 1 scale) * (powTen scale).2 := by rw [h]; ring

theorem quarters_units (n q : ℕ) (scale : ℤ) :
    ((n * (Nat.pow 2 q * (powTen scale).2) : ℕ) : ℚ) = n * 2 ^ q * (powTen scale).2 := by
  have h : ((Nat.pow 2 q : ℕ) : ℚ) = 2 ^ q := Nat.cast_pow 2 q
  rw [Nat.cast_mul, Nat.cast_mul, h]
  ring

/-- Whether the search takes a grid point for one that rounds to the number. -/
def fits (m q : ℕ) (scale : ℤ) (c : ℕ) : Bool :=
  let a := Nat.pow 2 q * (powTen scale).2
  let b := (powTen scale).1 * (4 * unitsInOne)
  if m % 2 = 0 then lowEnd m q * a ≤ c * b && c * b ≤ (4 * m + 2) * a
  else lowEnd m q * a < c * b && c * b < (4 * m + 2) * a

/-- The grid point below the number. -/
def gridFloor (m q : ℕ) (scale : ℤ) : ℕ :=
  4 * m * (Nat.pow 2 q * (powTen scale).2) / ((powTen scale).1 * (4 * unitsInOne))

/-- The search on one grid: it takes the lower neighbour if that rounds to the number and is nearer,
or the upper one does not. -/
theorem decimalOn?_eq (m q : ℕ) (scale : ℤ) : ∃ nearDown : Bool, decimalOn? m q scale =
    if fits m q scale (gridFloor m q scale) && decide (0 < gridFloor m q scale) &&
        (nearDown || !fits m q scale (gridFloor m q scale + 1)) then
      some ⟨gridFloor m q scale, scale⟩
    else if fits m q scale (gridFloor m q scale + 1) then some ⟨gridFloor m q scale + 1, scale⟩
    else none :=
  ⟨_, rfl⟩

/-- The grid points that are taken are those that round to the number. -/
theorem fits_iff : fits m q scale c = true ↔ Rounds (decimalUnits c scale) m q := by
  have hpos : (0 : ℚ) < (powTen scale).2 := by exact_mod_cast powTen_snd_pos scale
  have hle : ∀ n, n * (Nat.pow 2 q * (powTen scale).2) ≤
      c * ((powTen scale).1 * (4 * unitsInOne)) ↔ (n : ℚ) * 2 ^ q ≤ 4 * decimalUnits c scale := by
    intro n
    rw [← Nat.cast_le (α := ℚ), grid_units, quarters_units, mul_le_mul_iff_left₀ hpos]
  have hge : ∀ n, c * ((powTen scale).1 * (4 * unitsInOne)) ≤
      n * (Nat.pow 2 q * (powTen scale).2) ↔ 4 * decimalUnits c scale ≤ (n : ℚ) * 2 ^ q := by
    intro n
    rw [← Nat.cast_le (α := ℚ), grid_units, quarters_units, mul_le_mul_iff_left₀ hpos]
  rw [fits]
  split
  · next heven =>
    rw [Bool.and_eq_true_iff, decide_eq_true_iff, decide_eq_true_iff, hle, hge]
    have hodd : m % 2 ≠ 1 := by omega
    exact ⟨fun h => ⟨h.1, h.2, fun h' => absurd h' hodd, fun h' => absurd h' hodd⟩,
      fun h => ⟨h.low, h.high⟩⟩
  · next hodd =>
    rw [Bool.and_eq_true_iff, decide_eq_true_iff, decide_eq_true_iff, ← not_le, ← not_le, hle, hge,
      not_le, not_le]
    have hodd : m % 2 = 1 := by omega
    exact ⟨fun h => ⟨h.1.le, h.2.le, fun _ => h.1, fun _ => h.2⟩,
      fun h => ⟨h.low_of_odd hodd, h.high_of_odd hodd⟩⟩

/-- The number lies between the two neighbours on a grid. -/
theorem gridFloor_bounds (m q : ℕ) (scale : ℤ) :
    decimalUnits (gridFloor m q scale) scale ≤ m * 2 ^ q ∧
      (m * 2 ^ q : ℚ) < decimalUnits (gridFloor m q scale + 1) scale := by
  have hpos : (0 : ℚ) < (powTen scale).2 := by exact_mod_cast powTen_snd_pos scale
  have hstep : 0 < (powTen scale).1 * (4 * unitsInOne) := by
    have h := grid_units 1 scale
    have h' := decimalUnits_one_pos scale
    rw [one_mul] at h
    have : (0 : ℚ) < ((powTen scale).1 * (4 * unitsInOne) : ℕ) := by
      rw [h]
      positivity
    exact_mod_cast this
  have hlow : gridFloor m q scale * ((powTen scale).1 * (4 * unitsInOne)) ≤
      4 * m * (Nat.pow 2 q * (powTen scale).2) := Nat.div_mul_le_self _ _
  have hhigh : 4 * m * (Nat.pow 2 q * (powTen scale).2) <
      (gridFloor m q scale + 1) * ((powTen scale).1 * (4 * unitsInOne)) :=
    (Nat.div_lt_iff_lt_mul hstep).mp (Nat.lt_succ_self _)
  rw [← Nat.cast_le (α := ℚ), grid_units, quarters_units, mul_le_mul_iff_left₀ hpos] at hlow
  rw [← Nat.cast_lt (α := ℚ), grid_units, quarters_units, mul_lt_mul_iff_left₀ hpos] at hhigh
  rw [Nat.cast_mul, mul_assoc] at hlow hhigh
  constructor
  · exact le_of_mul_le_mul_left hlow (by norm_num)
  · exact lt_of_mul_lt_mul_left hhigh (by norm_num)

/-- **What the search on one grid finds is a neighbour of the number that rounds to it.** -/
theorem decimalOn?_eq_some (h : decimalOn? m q scale = some d) :
    d.scale = scale ∧ 0 < d.coefficient ∧ d.coefficient ≤ gridFloor m q scale + 1 ∧
      Rounds d.units m q := by
  obtain ⟨nearDown, heq⟩ := decimalOn?_eq m q scale
  rw [heq] at h
  split at h
  · next hdown =>
    rw [Bool.and_eq_true, Bool.and_eq_true] at hdown
    obtain rfl := Option.some.inj h
    exact ⟨rfl, of_decide_eq_true hdown.1.2, Nat.le_succ _, fits_iff.mp hdown.1.1⟩
  · split at h
    · next hup =>
      obtain rfl := Option.some.inj h
      exact ⟨rfl, Nat.succ_pos _, le_rfl, fits_iff.mp hup⟩
    · cases h

/-- A grid of seventeen digits is finer than the interval that rounds to the number. -/
theorem mul_four_lt_width (q : ℕ) (hm : m < 2 ^ 53) :
    4 * m < (4 * m + 2 - lowEnd m q) * 10 ^ 16 := by
  unfold lowEnd
  split <;> omega

/-- Zero rounds to no other number. -/
theorem Rounds.coefficient_pos (hm : 0 < m) (h : Rounds (decimalUnits c scale) m q) : 0 < c := by
  rcases Nat.eq_zero_or_pos c with rfl | hc
  · have hend : (0 : ℚ) < lowEnd m q := by
      have := le_lowEnd m q
      exact_mod_cast (by omega : 0 < lowEnd m q)
    have hlow := h.low
    rw [decimalUnits_eq_mul, Nat.cast_zero, zero_mul, mul_zero] at hlow
    exact absurd hlow (not_le.mpr (by positivity))
  · exact hc

/-- **On a grid that is fine enough one of the neighbours rounds to the number.** -/
theorem rounds_neighbour (hm : 0 < m) (hm' : m < 2 ^ 53)
    (hgrid : decimalUnits 1 scale * 10 ^ 16 ≤ m * 2 ^ q) :
    Rounds (decimalUnits (gridFloor m q scale) scale) m q ∨
      Rounds (decimalUnits (gridFloor m q scale + 1) scale) m q := by
  obtain ⟨hlow, hhigh⟩ := gridFloor_bounds m q scale
  have hpow : (0 : ℚ) < 2 ^ q := by positivity
  have hend : (lowEnd m q : ℚ) < 4 * m := by exact_mod_cast lowEnd_lt q hm
  have htop : 4 * (m * 2 ^ q : ℚ) < (4 * m + 2 : ℕ) * 2 ^ q := by
    push_cast
    nlinarith
  have hwidth : (4 * m : ℚ) + lowEnd m q * 10 ^ 16 < (4 * m + 2 : ℕ) * 10 ^ 16 := by
    have h := mul_four_lt_width q hm'
    have hle : lowEnd m q ≤ 4 * m + 2 := by
      have := lowEnd_lt q hm
      omega
    exact_mod_cast (by omega : 4 * m + lowEnd m q * 10 ^ 16 < (4 * m + 2) * 10 ^ 16)
  by_cases hin : (lowEnd m q : ℚ) * 2 ^ q < 4 * decimalUnits (gridFloor m q scale) scale
  · left
    have h : 4 * decimalUnits (gridFloor m q scale) scale < (4 * m + 2 : ℕ) * 2 ^ q := by linarith
    exact ⟨hin.le, h.le, fun _ => hin, fun _ => h⟩
  · -- The lower neighbour is outside or at the end; one step from there is still inside.
    right
    rw [not_lt] at hin
    have hstep : decimalUnits (gridFloor m q scale + 1) scale =
        decimalUnits (gridFloor m q scale) scale + decimalUnits 1 scale := by
      rw [decimalUnits_eq_mul, decimalUnits_eq_mul (gridFloor m q scale)]
      push_cast
      ring
    have h₁ : (lowEnd m q : ℚ) * 2 ^ q < 4 * decimalUnits (gridFloor m q scale + 1) scale := by
      nlinarith
    have h₂ : 4 * decimalUnits (gridFloor m q scale + 1) scale < (4 * m + 2 : ℕ) * 2 ^ q := by
      have := mul_lt_mul_of_pos_right hwidth hpow
      rw [hstep]
      nlinarith
    exact ⟨h₁.le, h₂.le, fun _ => h₁, fun _ => h₂⟩

/-- **On a grid that is fine enough the search finds a neighbour.** -/
theorem exists_decimalOn? (hm : 0 < m) (hm' : m < 2 ^ 53)
    (hgrid : decimalUnits 1 scale * 10 ^ 16 ≤ m * 2 ^ q) : ∃ d, decimalOn? m q scale = some d := by
  obtain ⟨nearDown, heq⟩ := decimalOn?_eq m q scale
  rw [heq]
  by_cases hup : fits m q scale (gridFloor m q scale + 1) = true
  · split
    · exact ⟨_, rfl⟩
    · exact ⟨_, rfl⟩
  · have hdown := (rounds_neighbour hm hm' hgrid).resolve_right (mt fits_iff.mpr hup)
    rw [Bool.not_eq_true] at hup
    rw [hup, fits_iff.mpr hdown, decide_eq_true (hdown.coefficient_pos hm), Bool.not_false,
      Bool.or_true]
    exact ⟨_, if_pos rfl⟩

/-! ### The exponent of the leading digit -/

/-- The estimate of the exponent of the leading digit, from the binary exponent. -/
def estimate (j : ℕ) : ℤ := ((j : ℤ) - 1074) * 30103 / 100000

/-- **The estimate is off by one at most**, for all binary exponents of the format. -/
theorem estimate_bounds : ∀ j < 2098,
    (powTen (estimate j - 1)).1 * unitsInOne ≤ Nat.pow 2 j * (powTen (estimate j - 1)).2 ∧
      Nat.pow 2 (j + 1) * (powTen (estimate j + 2)).2 ≤ (powTen (estimate j + 2)).1 * unitsInOne := by
  decide +kernel

theorem estimate_units {j : ℕ} (hj : j < 2098) :
    decimalUnits 1 (estimate j - 1) ≤ 2 ^ j ∧ (2 : ℚ) ^ (j + 1) ≤ decimalUnits 1 (estimate j + 2) := by
  have hcast : ∀ k : ℕ, ((Nat.pow 2 k : ℕ) : ℚ) = 2 ^ k := fun k => Nat.cast_pow 2 k
  obtain ⟨hlow, hhigh⟩ := estimate_bounds j hj
  rw [← Nat.cast_le (α := ℚ), powTen_units, Nat.cast_mul, hcast] at hlow hhigh
  exact ⟨le_of_mul_le_mul_right hlow (by exact_mod_cast powTen_snd_pos _),
    le_of_mul_le_mul_right hhigh (by exact_mod_cast powTen_snd_pos _)⟩

/-- A number lies between the powers of two that its binary exponent names. -/
theorem two_pow_log2_bounds (hm : 0 < m) (q : ℕ) :
    (2 : ℚ) ^ (m.log2 + q) ≤ m * 2 ^ q ∧ (m * 2 ^ q : ℚ) < 2 ^ (m.log2 + q + 1) := by
  have hm₀ : m ≠ 0 := by omega
  have hlow : ((2 ^ m.log2 : ℕ) : ℚ) ≤ m := Nat.cast_le.mpr (Nat.log2_self_le hm₀)
  have hhigh : (m : ℚ) < ((2 ^ (m.log2 + 1) : ℕ) : ℚ) := Nat.cast_lt.mpr Nat.lt_log2_self
  push_cast at hlow hhigh
  constructor
  · rw [pow_add]
    gcongr
  · rw [add_right_comm, pow_add]
    gcongr

/-- Comparing with a power of ten. -/
theorem atLeast_iff (m q : ℕ) (k : ℤ) :
    (powTen k).1 * unitsInOne ≤ m * Nat.pow 2 q * (powTen k).2 ↔ decimalUnits 1 k ≤ m * 2 ^ q := by
  have hcast : ((Nat.pow 2 q : ℕ) : ℚ) = 2 ^ q := Nat.cast_pow 2 q
  have hpos : (0 : ℚ) < (powTen k).2 := by exact_mod_cast powTen_snd_pos k
  rw [← Nat.cast_le (α := ℚ), powTen_units, Nat.cast_mul, Nat.cast_mul, hcast,
    mul_le_mul_iff_left₀ hpos]

/-- **The leading digit stands where it is said to stand.** -/
theorem leadingExponent_bounds (hm : 0 < m) (hc : IsCanonical m q) :
    decimalUnits 1 (leadingExponent m q) ≤ m * 2 ^ q ∧
      (m * 2 ^ q : ℚ) < decimalUnits 1 (leadingExponent m q + 1) := by
  have hlog : m.log2 < 53 := (Nat.log2_lt (by omega)).mpr hc.1
  have hq : q ≤ 2045 := hc.2.1
  obtain ⟨hlow, hhigh⟩ := estimate_units (j := m.log2 + q) (by omega)
  obtain ⟨hlow', hhigh'⟩ := two_pow_log2_bounds hm q
  have heq : leadingExponent m q =
      if decimalUnits 1 (estimate (m.log2 + q) + 1) ≤ m * 2 ^ q then estimate (m.log2 + q) + 1
      else if decimalUnits 1 (estimate (m.log2 + q)) ≤ m * 2 ^ q then estimate (m.log2 + q)
      else estimate (m.log2 + q) - 1 := by
    simp only [← atLeast_iff]
    rw [leadingExponent]
    simp only [decide_eq_true_eq]
    rfl
  rw [heq]
  generalize estimate (m.log2 + q) = e at *
  by_cases h₁ : decimalUnits 1 (e + 1) ≤ m * 2 ^ q
  · have htwo : e + 1 + 1 = e + 2 := by ring
    rw [if_pos h₁, htwo]
    exact ⟨h₁, hhigh'.trans_le hhigh⟩
  · rw [if_neg h₁]
    by_cases h₂ : decimalUnits 1 e ≤ m * 2 ^ q
    · rw [if_pos h₂]
      exact ⟨h₂, not_le.mp h₁⟩
    · rw [if_neg h₂, sub_add_cancel]
      exact ⟨hlow.trans hlow', not_le.mp h₂⟩

/-! ### Trailing zeros -/

end Double

namespace Decimal

variable {d : Decimal}

/-- Trailing zeros do not matter. -/
theorem trimZeros_units (fuel : ℕ) (d : Decimal) : (trimZeros fuel d).units = d.units := by
  induction fuel generalizing d with
  | zero => rfl
  | succ fuel ih =>
    rw [trimZeros]
    split
    · next h =>
      rw [ih, units, units]
      have hcoef : d.coefficient = d.coefficient / 10 * 10 ^ 1 := by omega
      have hscale : d.scale = d.scale + 1 - (1 : ℕ) := by omega
      conv_rhs => rw [hcoef, hscale, Double.decimalUnits_shift]
    · rfl

theorem trimZeros_coefficient (fuel : ℕ) (hd : 0 < d.coefficient) :
    0 < (trimZeros fuel d).coefficient ∧ (trimZeros fuel d).coefficient ≤ d.coefficient := by
  induction fuel generalizing d with
  | zero => exact ⟨hd, le_rfl⟩
  | succ fuel ih =>
    rw [trimZeros]
    split
    · next h =>
      obtain ⟨hpos, hle⟩ := ih (d := ⟨d.coefficient / 10, d.scale + 1⟩) (by simp only; omega)
      exact ⟨hpos, hle.trans (Nat.div_le_self _ _)⟩
    · exact ⟨hd, le_rfl⟩

end Decimal

namespace Double

variable {m q : ℕ}

/-- A neighbour on a grid of at most seventeen digits has no more than these. -/
theorem gridFloor_lt {scale : ℤ} (h : (m * 2 ^ q : ℚ) < decimalUnits 1 (scale + 17)) :
    gridFloor m q scale < 10 ^ 17 := by
  have hlow := (gridFloor_bounds m q scale).1
  have hshift := decimalUnits_shift 1 17 (scale + 17)
  rw [one_mul, Nat.cast_ofNat, add_sub_cancel_right] at hshift
  rw [← hshift, decimalUnits_eq_mul] at h
  rw [decimalUnits_eq_mul] at hlow
  have hlt := lt_of_mul_lt_mul_right (hlow.trans_lt h) (decimalUnits_one_pos scale).le
  exact_mod_cast hlt

/-- **The shortest decimal rounds to the number**, and it is short. -/
theorem shortest_rounds (hm : 0 < m) (hc : IsCanonical m q) :
    Rounds (shortest m q).units m q ∧ 0 < (shortest m q).coefficient ∧
      (shortest m q).coefficient ≤ 10 ^ 17 := by
  obtain ⟨hlow, hhigh⟩ := leadingExponent_bounds hm hc
  -- The grid of seventeen digits is always fine enough.
  have hgrid : decimalUnits 1 (leadingExponent m q - 16) * 10 ^ 16 ≤ m * 2 ^ q := by
    have hshift := decimalUnits_shift 1 16 (leadingExponent m q)
    rw [one_mul, Nat.cast_ofNat, decimalUnits_eq_mul] at hshift
    rw [mul_comm]
    exact_mod_cast hshift.trans_le hlow
  obtain ⟨d₀, hd₀⟩ := exists_decimalOn? hm hc.1 hgrid
  obtain ⟨d, hd⟩ : ∃ d, ((List.range 17).findSome? fun (k : ℕ) =>
      decimalOn? m q (leadingExponent m q - (k : ℤ))) = some d := by
    rw [← Option.isSome_iff_exists, List.findSome?_isSome_iff]
    exact ⟨16, by simp, by rw [Nat.cast_ofNat, hd₀, Option.isSome_some]⟩
  obtain ⟨k, hk, hdk⟩ := List.exists_of_findSome?_eq_some hd
  obtain ⟨-, hpos, hle, hrounds⟩ := decimalOn?_eq_some hdk
  have hshort : gridFloor m q (leadingExponent m q - (k : ℤ)) < 10 ^ 17 := by
    refine gridFloor_lt (hhigh.trans_le (decimalUnits_one_mono ?_))
    have := List.mem_range.mp hk
    omega
  have heq : shortest m q = d.trimZeros 400 := by
    rw [shortest]
    simp only [hd, Option.getD_some]
  obtain ⟨hpos', hle'⟩ := Decimal.trimZeros_coefficient 400 hpos
  rw [heq, Decimal.trimZeros_units]
  exact ⟨hrounds, hpos', by omega⟩

end Double

end WizardLogic
