import Mathlib
import WizardLogic.Number.Shortest
import WizardLogic.Proofs.Siblings.Rank

/-!
# Rounding to the nearest number

Every finite number of the format is the one that the numbers near it round to. How near they have
to be is what `Double.roundingInterval` gives: half a unit of the last place to both sides, a
quarter to the lower side of a power of two, and the ends of the interval belong to it exactly when
the mantissa is even. `Double.Rounds` says of an exact number of units that it lies in that interval.

The main result is that rounding a quotient does round what lies in the interval to the number it
belongs to (`Double.ofQuotient_eq`), and the same for a decimal whose digits are not absurdly many
(`Double.ofDecimal_eq`): the test by which exponents far out of range are settled without computing
the power is never met there.
-/

namespace WizardLogic

/-- **Rounding to the nearest natural**: a quotient within a half of a natural rounds to it, and
where the natural is odd it has to be nearer than a half. -/
theorem roundHalfEven_eq {num den k : ℕ} (hden : 0 < den)
    (hlo : 2 * k * den ≤ 2 * num + den) (hhi : 2 * num ≤ 2 * k * den + den)
    (hodd : k % 2 = 1 → 2 * k * den < 2 * num + den ∧ 2 * num < 2 * k * den + den) :
    roundHalfEven num den = k := by
  have hdiv : num = den * (num / den) + num % den := (Nat.div_add_mod num den).symm
  have hr : num % den < den := Nat.mod_lt _ hden
  unfold roundHalfEven
  generalize num / den = c at hdiv ⊢
  generalize num % den = r at hdiv hr ⊢
  subst hdiv
  by_cases hlt : 2 * r < den
  · simp only [if_pos hlt]
    have h₁ : k < c + 1 := by nlinarith
    have h₂ : c < k + 1 := by nlinarith
    omega
  · by_cases hgt : den < 2 * r
    · simp only [if_neg hlt, if_pos hgt]
      have h₁ : k < c + 2 := by nlinarith
      have h₂ : c < k := by nlinarith
      omega
    · -- A tie: the natural is one of the two neighbours, and it is not odd.
      simp only [if_neg hlt, if_neg hgt]
      have htie : den = 2 * r := by omega
      subst htie
      have h₁ : k < c + 2 := by nlinarith
      have h₂ : c < k + 1 := by nlinarith
      have heven : k % 2 ≠ 1 := by
        intro h
        obtain ⟨h₃, h₄⟩ := hodd h
        rcases (by omega : k = c ∨ k = c + 1) with rfl | rfl <;> nlinarith
      omega

namespace Double

/-! ### The interval that rounds to a number -/

/-- The lower end of the interval, in quarters of the last place. -/
def lowEnd (m q : ℕ) : ℕ := if m = 2 ^ 52 ∧ 0 < q then 4 * m - 1 else 4 * m - 2

/-- **An exact number of units that rounds to `m * 2 ^ q` units.** -/
structure Rounds (x : ℚ) (m q : ℕ) : Prop where
  low : lowEnd m q * 2 ^ q ≤ 4 * x
  high : 4 * x ≤ (4 * m + 2 : ℕ) * 2 ^ q
  low_of_odd : m % 2 = 1 → lowEnd m q * 2 ^ q < 4 * x
  high_of_odd : m % 2 = 1 → 4 * x < (4 * m + 2 : ℕ) * 2 ^ q

theorem le_lowEnd (m q : ℕ) : 4 * m - 2 ≤ lowEnd m q := by
  unfold lowEnd
  split <;> omega

theorem lowEnd_lt {m : ℕ} (q : ℕ) (hm : 0 < m) : lowEnd m q < 4 * m := by
  unfold lowEnd
  split <;> omega

section Quotient

variable {num den m q : ℕ} {neg : Bool}

/-- What lies in the interval, in naturals. -/
theorem Rounds.quotient (hden : 0 < den) (h : Rounds (num / den : ℚ) m q) :
    (lowEnd m q * 2 ^ q * den ≤ 4 * num ∧ 4 * num ≤ (4 * m + 2) * 2 ^ q * den) ∧
      (m % 2 = 1 → lowEnd m q * 2 ^ q * den < 4 * num ∧
        4 * num < (4 * m + 2) * 2 ^ q * den) := by
  have hd : (0 : ℚ) < den := by exact_mod_cast hden
  have hx : (4 * (num / den : ℚ)) = 4 * num / den := by ring
  obtain ⟨h₁, h₂, h₃, h₄⟩ := h
  rw [hx] at h₁ h₂ h₃ h₄
  rw [le_div_iff₀ hd] at h₁
  rw [div_le_iff₀ hd] at h₂
  refine ⟨⟨by exact_mod_cast h₁, by exact_mod_cast h₂⟩, fun hodd => ⟨?_, ?_⟩⟩
  · have h := (lt_div_iff₀ hd).mp (h₃ hodd)
    exact_mod_cast h
  · have h := (div_lt_iff₀ hd).mp (h₄ hodd)
    exact_mod_cast h

/-- The exponent that rounding chooses, from the binary length of the quotient. -/
theorem log2_sub_of_lt {x q : ℕ} (hlo : 2 ^ (52 + q) ≤ x ∨ q = 0) (hhi : x < 2 ^ (53 + q)) :
    x.log2 - 52 = q := by
  rcases Nat.eq_zero_or_pos x with rfl | hx
  · rcases hlo with h | h
    · exact absurd h (by simp)
    · simp [h]
  · have hx' : x ≠ 0 := by omega
    have hlt : x.log2 < 53 + q := (Nat.log2_lt hx').mpr hhi
    rcases hlo with h | h
    · have hge : 52 + q ≤ x.log2 := (Nat.le_log2 hx').mpr h
      omega
    · omega

theorem pack_eq (h : IsCanonical m q) : pack neg m q = finite neg m q h := dif_pos h

/-- Just below a power of two the numbers lie twice as densely, and the power of two is the least
number that is not rounded on that denser grid. -/
theorem Rounds.powerOfTwo (hden : 0 < den) (hm : 2 ^ 52 ≤ m)
    (h : Rounds (num / den : ℚ) m q) (hsmall : num / den < 2 ^ (52 + q)) : m = 2 ^ 52 := by
  have hlo := (h.quotient hden).1.1
  have hle := le_lowEnd m q
  have hpos : 0 < 2 ^ q * den := Nat.mul_pos (Nat.two_pow_pos q) hden
  rw [Nat.div_lt_iff_lt_mul hden, pow_add] at hsmall
  have hlt : lowEnd m q < 4 * 2 ^ 52 := by nlinarith
  omega

/-- **A quotient in the interval of a number is rounded to that number.** -/
theorem ofQuotient_eq (hc : IsCanonical m q) (hden : 0 < den)
    (h : Rounds (num / den : ℚ) m q) : ofQuotient neg num den = finite neg m q hc := by
  obtain ⟨⟨hlo, hhi⟩, hodd⟩ := h.quotient hden
  have hm : m < 2 ^ 53 := hc.1
  have hnormal : q = 0 ∨ 2 ^ 52 ≤ m := hc.2.2
  have hpow : 0 < 2 ^ q := Nat.two_pow_pos q
  have hle : 4 * m - 2 ≤ lowEnd m q := le_lowEnd m q
  have hbelow : num / den < 2 ^ (53 + q) := by
    rw [Nat.div_lt_iff_lt_mul hden, pow_add]
    have hpos : 0 < 2 ^ q * den := Nat.mul_pos hpow hden
    nlinarith
  by_cases hgrid : 2 ^ (52 + q) ≤ num / den ∨ q = 0
  · -- The quotient lies on the grid of the number's own exponent.
    have hround : roundHalfEven num (den * 2 ^ q) = m := by
      have hlo' : (4 * m - 2) * 2 ^ q * den ≤ 4 * num := le_trans (by gcongr) hlo
      refine roundHalfEven_eq (Nat.mul_pos hden hpow) ?_ ?_ fun hm' => ?_
      · rcases Nat.eq_zero_or_pos m with rfl | hm₀
        · omega
        · obtain ⟨k, hk⟩ : ∃ k, 4 * m = k + 2 := ⟨4 * m - 2, by omega⟩
          rw [hk, Nat.add_sub_cancel] at hlo'
          nlinarith
      · nlinarith
      · obtain ⟨hlo₁, hhi₁⟩ := hodd hm'
        have hlo₂ : (4 * m - 2) * 2 ^ q * den < 4 * num := lt_of_le_of_lt (by gcongr) hlo₁
        obtain ⟨k, hk⟩ : ∃ k, 4 * m = k + 2 := ⟨4 * m - 2, by omega⟩
        rw [hk, Nat.add_sub_cancel] at hlo₂
        constructor <;> nlinarith
    have hexp : (num / den).log2 - 52 = q := log2_sub_of_lt hgrid hbelow
    unfold ofQuotient
    simp only [hexp]
    rw [show roundHalfEven num (den * Nat.pow 2 q) = m from hround]
    exact (if_pos hm).trans (pack_eq hc)
  · -- It lies below a power of two: it is rounded on the denser grid, up to the next mantissa.
    rw [not_or, not_le] at hgrid
    obtain ⟨hsmall, hq⟩ := hgrid
    have hm₀ : m = 2 ^ 52 :=
      h.powerOfTwo hden (hnormal.resolve_left hq) hsmall
    obtain ⟨q', rfl⟩ : ∃ q', q = q' + 1 := ⟨q - 1, by omega⟩
    have hlow : lowEnd m (q' + 1) = 2 ^ 54 - 1 := by
      rw [lowEnd, if_pos ⟨hm₀, Nat.succ_pos q'⟩, hm₀]
      norm_num
    rw [hlow, pow_succ 2 q', Nat.sub_mul, Nat.sub_mul, tsub_le_iff_right] at hlo
    rw [Nat.div_lt_iff_lt_mul hden, ← Nat.add_assoc, pow_succ 2 (52 + q'), pow_add] at hsmall
    have hpos : 0 < 2 ^ q' * den := Nat.mul_pos (Nat.two_pow_pos q') hden
    have hnear : 2 * 2 ^ 53 * (2 ^ q' * den) ≤ 2 * num + 2 ^ q' * den := by nlinarith
    have hround : roundHalfEven num (den * 2 ^ q') = 2 ^ 53 := by
      refine roundHalfEven_eq (Nat.mul_pos hden (Nat.two_pow_pos q')) ?_ ?_ fun h' => ?_
      · nlinarith
      · nlinarith
      · exact absurd h' (by decide)
    have hexp : (num / den).log2 - 52 = q' := by
      refine log2_sub_of_lt (.inl ?_) ?_
      · rw [Nat.le_div_iff_mul_le hden, pow_add]
        nlinarith
      · rw [Nat.div_lt_iff_lt_mul hden, pow_add]
        nlinarith
    unfold ofQuotient
    simp only [hexp]
    rw [show roundHalfEven num (den * Nat.pow 2 q') = 2 ^ 53 from hround,
      if_neg (show ¬2 ^ 53 < Nat.pow 2 53 from lt_irrefl _),
      show 2 ^ 53 / 2 = m by rw [hm₀]; norm_num, pack_eq hc]

end Quotient

/-! ### Decimals -/

/-- The number of units in one, as a rational. -/
def oneUnits : ℚ := 2 ^ 1074

theorem oneUnits_pos : 0 < oneUnits := pow_pos (by norm_num) _

theorem natCast_mul_unitsInOne (k : ℕ) : ((k * unitsInOne : ℕ) : ℚ) = k * oneUnits := by
  -- The exponent is hidden, so that the power is not computed.
  unfold unitsInOne oneUnits
  generalize 1074 = n
  have h : ((Nat.pow 2 n : ℕ) : ℚ) = 2 ^ n := Nat.cast_pow 2 n
  rw [Nat.cast_mul, h]

/-- The exact number of units of the decimal `c * 10 ^ e`. -/
def decimalUnits (c : ℕ) (e : ℤ) : ℚ := c * 10 ^ e * oneUnits

/-- Moving the point of a decimal does not change what it is. -/
theorem decimalUnits_shift (c k : ℕ) (e : ℤ) :
    decimalUnits (c * 10 ^ k) (e - k) = decimalUnits c e := by
  have h : (10 : ℚ) ^ e = 10 ^ k * 10 ^ (e - k) := by
    rw [← zpow_natCast, ← zpow_add₀ (by norm_num)]
    congr 1
    omega
  unfold decimalUnits
  rw [h]
  push_cast
  ring

section Decimal

variable {c m q : ℕ} {e : ℤ} {neg : Bool}

theorem two_pow_le_ten_pow (n : ℕ) : (2 : ℚ) ^ (3 * n) ≤ 10 ^ n := by
  rw [pow_mul]
  gcongr
  norm_num

/-- What rounds to a finite number has a decimal exponent that is not too large. -/
theorem Rounds.exponent_le (hc : IsCanonical m q) (hcoef : 0 < c)
    (h : Rounds (decimalUnits c e) m q) : e ≤ 350 := by
  by_contra hbig
  obtain ⟨n, rfl⟩ : ∃ n : ℕ, e = n := ⟨e.toNat, by omega⟩
  have hpow : (2 : ℚ) ^ 1051 ≤ 10 ^ n :=
    le_trans (pow_le_pow_right₀ (by norm_num) (by omega)) (two_pow_le_ten_pow n)
  have hone : (1 : ℚ) ≤ c := by exact_mod_cast hcoef
  have hx : (2 : ℚ) ^ (1051 + 1074) ≤ decimalUnits c n := by
    rw [pow_add, decimalUnits, zpow_natCast, oneUnits]
    gcongr
    exact hpow.trans (le_mul_of_one_le_left (by positivity) hone)
  have hm : ((4 * m + 2 : ℕ) : ℚ) ≤ 2 ^ 55 := by
    have h : m < 2 ^ 53 := hc.1
    exact_mod_cast (by omega : 4 * m + 2 ≤ 2 ^ 55)
  have hhigh : 4 * decimalUnits c n ≤ 2 ^ (55 + 2045) := by
    rw [pow_add]
    exact h.high.trans (mul_le_mul hm (pow_le_pow_right₀ (by norm_num) hc.2.1)
      (by positivity) (by positivity))
  have hlt : (2 : ℚ) ^ (55 + 2045) < 2 ^ (1051 + 1074) :=
    pow_lt_pow_right₀ (by norm_num) (by norm_num)
  have hpos : 0 ≤ decimalUnits c n := le_trans (by positivity) hx
  have hfour : decimalUnits c n ≤ 4 * decimalUnits c n :=
    le_mul_of_one_le_left hpos (by norm_num)
  exact absurd ((hx.trans hfour).trans hhigh) (not_le.mpr hlt)

/-- What rounds to a number other than zero has a decimal exponent that is not too small. -/
theorem Rounds.le_exponent (hm : 0 < m) (hcoef : c < 2 ^ 64)
    (h : Rounds (decimalUnits c e) m q) : -400 ≤ e := by
  by_contra hsmall
  obtain ⟨n, rfl⟩ : ∃ n : ℕ, e = -n := ⟨(-e).toNat, by omega⟩
  have hpow : (2 : ℚ) ^ 1203 ≤ 10 ^ n :=
    le_trans (pow_le_pow_right₀ (by norm_num) (by omega)) (two_pow_le_ten_pow n)
  have hlow : (2 : ℚ) ≤ 4 * decimalUnits c (-n) := by
    refine le_trans ?_ h.low
    have hend : 2 ≤ lowEnd m q := by
      have := le_lowEnd m q
      omega
    exact_mod_cast hend.trans (Nat.le_mul_of_pos_right _ (Nat.two_pow_pos q))
  have hx : decimalUnits c (-n) * 10 ^ n = c * oneUnits := by
    rw [decimalUnits, zpow_neg, zpow_natCast]
    field_simp
  have hcoefq : (c : ℚ) ≤ 2 ^ 64 := by exact_mod_cast hcoef.le
  have hupper : (c : ℚ) * oneUnits ≤ 2 ^ (64 + 1074) := by
    rw [pow_add, oneUnits]
    gcongr
  have hlt : (2 : ℚ) ^ (64 + 1074) * 2 < 2 ^ 1203 := by
    rw [← pow_succ]
    exact pow_lt_pow_right₀ (by norm_num) (by norm_num)
  have hten : (10 : ℚ) ^ n ≤ 2 ^ (64 + 1074) * 2 := calc
    (10 : ℚ) ^ n ≤ 2 * decimalUnits c (-n) * 10 ^ n :=
      le_mul_of_one_le_left (by positivity) (by linarith only [hlow])
    _ = c * oneUnits * 2 := by rw [mul_assoc, hx, mul_comm]
    _ ≤ 2 ^ (64 + 1074) * 2 := mul_le_mul_of_nonneg_right hupper (by norm_num)
  exact absurd (hpow.trans hten) (not_le.mpr hlt)

/-- **A decimal in the interval of a number is rounded to that number.** -/
theorem ofDecimal_eq (hc : IsCanonical m q) (hm : 0 < m) (hcoef : 0 < c) (hcoef' : c < 2 ^ 64)
    (h : Rounds (decimalUnits c e) m q) : ofDecimal neg c e = finite neg m q hc := by
  have hlog : c.log2 < 64 := (Nat.log2_lt (by omega)).mpr hcoef'
  have hle := h.exponent_le hc hcoef
  have hge := h.le_exponent hm hcoef'
  rw [ofDecimal, if_neg (by omega)]
  simp only []
  rw [if_neg (by omega), if_neg (by omega)]
  by_cases he : 0 ≤ e
  · obtain ⟨n, rfl⟩ : ∃ n : ℕ, e = n := ⟨e.toNat, by omega⟩
    have hx : decimalUnits c n = ((c * 10 ^ n * unitsInOne : ℕ) : ℚ) / (1 : ℕ) := by
      rw [decimalUnits, natCast_mul_unitsInOne, zpow_natCast, Nat.cast_one, div_one]
      push_cast
      rfl
    rw [if_pos he, ofRatio]
    exact ofQuotient_eq hc Nat.one_pos (hx ▸ h)
  · obtain ⟨n, rfl⟩ : ∃ n : ℕ, e = -n := ⟨(-e).toNat, by omega⟩
    have hx : decimalUnits c (-n) = ((c * unitsInOne : ℕ) : ℚ) / (10 ^ n : ℕ) := by
      rw [decimalUnits, natCast_mul_unitsInOne, zpow_neg, zpow_natCast]
      push_cast
      ring
    rw [if_neg he, ofRatio, neg_neg, Int.toNat_natCast]
    exact ofQuotient_eq hc (Nat.pow_pos (by norm_num)) (hx ▸ h)

end Decimal

/-! ### Signs -/

theorem pack_true (m q : ℕ) : pack true m q = (pack false m q).neg := by
  rw [pack, pack]
  split <;> rfl

theorem ofRatio_true (num den : ℕ) : ofRatio true num den = (ofRatio false num den).neg := by
  simp only [ofRatio, ofQuotient]
  split <;> exact pack_true _ _

/-- **Rounding does not depend on the sign.** -/
theorem ofDecimal_true (c : ℕ) (e : ℤ) : ofDecimal true c e = (ofDecimal false c e).neg := by
  simp only [ofDecimal]
  split_ifs
  · rfl
  · rfl
  · rfl
  · exact ofRatio_true _ _
  · exact ofRatio_true _ _

end Double

end WizardLogic
