import Mathlib
import WizardLogic.Number.Reading
import WizardLogic.Json.Reader
import WizardLogic.Proofs.Number.Shortest

/-!
# Written numbers

A number without its sign is written as a `Numeral`: digits, perhaps a point and more digits, perhaps
an exponent. Both readers of numbers, that of JSON and that of free text, take a numeral for the
decimal that it spells (`Json.readNumber_numeral`, `Number.readDecimal?_numeral`), and the four layouts
of a floating-point number are all numerals of its shortest decimal (`Double.exists_numeral`).

Together with the rounding of decimals this gives the main result, `Double.exists_numeral_chars`: what
is written for a finite number is a sign and a numeral whose decimal is rounded to that number.
-/

namespace WizardLogic

/-! ### Digits -/

namespace Number

theorem isDigit_eq (c : Char) : isDigit c = c.isDigit := rfl

theorem digitsValue_eq (cs : List Char) : digitsValue cs = Nat.ofDigitChars 10 cs 0 := by
  rw [digitsValue, Nat.ofDigitChars_eq_foldl]
  congr 1
  funext n c
  rw [Nat.mul_comm]
  rfl

theorem digitsValue_append (cs ds : List Char) :
    digitsValue (cs ++ ds) = digitsValue cs * 10 ^ ds.length + digitsValue ds := by
  rw [digitsValue_eq, digitsValue_eq, digitsValue_eq, Nat.ofDigitChars_append,
    Nat.ofDigitChars_eq_ofDigitChars_zero, Nat.mul_comm]

theorem digitsValue_replicate_zero (n : ℕ) : digitsValue (List.replicate n '0') = 0 := by
  rw [digitsValue_eq, Nat.ofDigitChars_replicate_zero, Nat.mul_zero]

theorem digitsValue_toDigits (n : ℕ) : digitsValue (Nat.toDigits 10 n) = n := by
  rw [digitsValue_eq, Nat.ofDigitChars_ten_toDigits]

theorem isDigit_of_mem_toDigits {n : ℕ} {c : Char} (h : c ∈ Nat.toDigits 10 n) :
    isDigit c = true := Nat.isDigit_of_mem_toDigits (by norm_num) le_rfl h

theorem length_toDigits_le {n limit : ℕ} (hlimit : 0 < limit) (h : n < Nat.pow 10 limit) :
    (Nat.toDigits 10 n).length ≤ limit :=
  (Nat.length_toDigits_le_iff (by norm_num) hlimit).mpr h

/-- The digits of a positive number do not begin with a zero. -/
theorem head?_toDigits {n : ℕ} (hn : 0 < n) : (Nat.toDigits 10 n).head? ≠ some '0' := by
  induction n using Nat.strongRecOn with
  | ind n ih =>
    rw [Nat.toDigits_eq_if (by norm_num)]
    split
    · next h => interval_cases n <;> decide
    · next h =>
      rw [List.head?_append_of_ne_nil _ Nat.toDigits_ne_nil]
      exact ih (n / 10) (by omega) (by omega)

end Number

/-! ### Numerals -/

/-- A written number without its sign: the digits before the point, those behind it, and the sign and
the digits of the exponent. -/
structure Numeral where
  whole : List Char
  fraction : List Char
  exponent : Option (Bool × List Char)

namespace Numeral

/-- The characters of an exponent. -/
def exponentChars : Option (Bool × List Char) → List Char
  | none => []
  | some (neg, digits) => 'e' :: (if neg then '-' else '+') :: digits

/-- The characters of a numeral. -/
def chars (n : Numeral) : List Char :=
  n.whole ++ ((if n.fraction = [] then [] else '.' :: n.fraction) ++ exponentChars n.exponent)

/-- The number that an exponent denotes. -/
def exponentValue : Option (Bool × List Char) → ℤ
  | none => 0
  | some (neg, digits) => if neg then -Number.digitsValue digits else Number.digitsValue digits

/-- The digits of a numeral as one natural. -/
def coefficient (n : Numeral) : ℕ := Number.digitsValue (n.whole ++ n.fraction)

/-- The power of ten of the last digit. -/
def scale (n : Numeral) : ℤ := exponentValue n.exponent - n.fraction.length

/-- **A numeral that is spelled well**: there are digits before the point and in an exponent, and a
zero comes first only if it stands alone before the point. -/
structure WellFormed (n : Numeral) : Prop where
  whole_ne_nil : n.whole ≠ []
  isDigit_whole : ∀ c ∈ n.whole, Number.isDigit c = true
  isDigit_fraction : ∀ c ∈ n.fraction, Number.isDigit c = true
  isDigit_exponent : ∀ neg digits, n.exponent = some (neg, digits) →
    digits ≠ [] ∧ ∀ c ∈ digits, Number.isDigit c = true
  leadingZero : n.whole = ['0'] ∨ n.whole.head? ≠ some '0'

/-- Whether a numeral spells a floating-point number. -/
def isPointed (n : Numeral) : Prop := n.fraction ≠ [] ∨ n.exponent ≠ none

variable {n : Numeral}

/-- A point stands in front of a fraction only. -/
theorem WellFormed.fraction_ne_nil (hn : n.WellFormed) (h : '.' ∈ n.chars) : n.fraction ≠ [] := by
  intro hnil
  have hdigit : ¬Number.isDigit '.' = true := by decide
  rw [chars, if_pos hnil, List.nil_append, List.mem_append] at h
  rcases h with h | h
  · exact hdigit (hn.isDigit_whole _ h)
  · cases he : n.exponent with
    | none =>
      rw [he] at h
      cases h
    | some e =>
      obtain ⟨neg, digits⟩ := e
      rw [he, exponentChars, List.mem_cons, List.mem_cons] at h
      rcases h with h | h | h
      · exact absurd h (by decide)
      · cases neg <;> exact absurd h (by decide)
      · exact hdigit ((hn.isDigit_exponent _ _ he).2 _ h)

end Numeral

/-- Characters that no numeral goes on with. -/
def endsNumber (rest : List Char) : Prop :=
  ∀ c ∈ rest.head?, Number.isDigit c = false ∧ c ≠ '.' ∧ c ≠ 'e' ∧ c ≠ 'E'

theorem dropWhile_isDigit_append {ds rest : List Char} (hds : ∀ c ∈ ds, Number.isDigit c = true)
    (hrest : ∀ c ∈ rest.head?, Number.isDigit c = false) :
    (ds ++ rest).takeWhile Number.isDigit = ds ∧ (ds ++ rest).dropWhile Number.isDigit = rest := by
  rw [List.takeWhile_append_of_pos hds, List.dropWhile_append_of_pos hds]
  cases rest with
  | nil => exact ⟨List.append_nil ds, rfl⟩
  | cons c rest =>
    have hc := hrest c rfl
    rw [List.takeWhile_cons, List.dropWhile_cons, hc]
    exact ⟨List.append_nil ds, rfl⟩

namespace Numeral

variable {n : Numeral} {rest : List Char}

/-- What follows the digits before the point is no digit. -/
theorem head?_tail (n : Numeral) (hrest : endsNumber rest) :
    ∀ c ∈ ((if n.fraction = [] then [] else '.' :: n.fraction) ++
      (exponentChars n.exponent ++ rest)).head?, Number.isDigit c = false := by
  split
  · rw [List.nil_append]
    cases n.exponent with
    | none => exact fun c hc => (hrest c hc).1
    | some e =>
      rintro c hc
      obtain rfl := Option.some.inj hc
      rfl
  · rintro c hc
    obtain rfl := Option.some.inj hc
    rfl

/-- What follows the digits behind the point is no digit and no point. -/
theorem head?_exponentChars (e : Option (Bool × List Char)) (hrest : endsNumber rest) :
    ∀ c ∈ (exponentChars e ++ rest).head?, Number.isDigit c = false ∧ c ≠ '.' := by
  cases e with
  | none => exact fun c hc => ⟨(hrest c hc).1, (hrest c hc).2.1⟩
  | some e =>
    rintro c hc
    obtain rfl := Option.some.inj hc
    exact ⟨rfl, by decide⟩

end Numeral

/-! ### Reading numerals in JSON -/

namespace Json

open Numeral

variable {n : Numeral} {rest : List Char}

theorem takeDigits_append {ds rest : List Char} (hds : ∀ c ∈ ds, Number.isDigit c = true)
    (hrest : ∀ c ∈ rest.head?, Number.isDigit c = false) :
    takeDigits (ds ++ rest) = (ds, rest) :=
  Prod.ext (dropWhile_isDigit_append hds hrest).1 (dropWhile_isDigit_append hds hrest).2

theorem readWhole_append {whole rest : List Char} (hne : whole ≠ [])
    (hdigits : ∀ c ∈ whole, Number.isDigit c = true)
    (hzero : whole = ['0'] ∨ whole.head? ≠ some '0')
    (hrest : ∀ c ∈ rest.head?, Number.isDigit c = false) :
    readWhole (whole ++ rest) = some (whole, rest) := by
  rcases hzero with rfl | hzero
  · rfl
  · have htake := takeDigits_append hdigits hrest
    unfold readWhole
    split
    · next heq =>
      cases whole with
      | nil => exact absurd rfl hne
      | cons c cs =>
        obtain ⟨rfl, -⟩ := List.cons.inj heq
        exact absurd rfl hzero
    · rw [htake]
      cases whole with
      | nil => exact absurd rfl hne
      | cons c cs => rfl

theorem readFraction_append {fraction rest : List Char}
    (hdigits : ∀ c ∈ fraction, Number.isDigit c = true)
    (hrest : ∀ c ∈ rest.head?, Number.isDigit c = false ∧ c ≠ '.') :
    readFraction ((if fraction = [] then [] else '.' :: fraction) ++ rest) = (fraction, rest) := by
  split
  · next hnil =>
    subst hnil
    rw [List.nil_append]
    unfold readFraction
    split
    · next r => exact absurd rfl (hrest '.' rfl).2
    · rfl
  · next hne =>
    rw [List.cons_append, readFraction]
    simp only [takeDigits_append hdigits fun c hc => (hrest c hc).1]
    cases fraction with
    | nil => exact absurd rfl hne
    | cons c cs => rfl

theorem readExponent_append {e : Option (Bool × List Char)}
    (hdigits : ∀ neg digits, e = some (neg, digits) →
      digits ≠ [] ∧ ∀ c ∈ digits, Number.isDigit c = true)
    (hrest : endsNumber rest) :
    readExponent (exponentChars e ++ rest) = (e.map fun e => exponentValue (some e), rest) := by
  cases e with
  | none =>
    rw [exponentChars, List.nil_append]
    cases rest with
    | nil => rfl
    | cons c rest =>
      obtain ⟨-, -, he, hE⟩ := hrest c rfl
      unfold readExponent
      exact if_neg (not_or.mpr ⟨he, hE⟩)
  | some e =>
    obtain ⟨neg, digits⟩ := e
    obtain ⟨hne, hall⟩ := hdigits neg digits rfl
    have htake := takeDigits_append hall fun c hc => (hrest c hc).1
    have hempty : digits.isEmpty = false := by
      cases digits with
      | nil => exact absurd rfl hne
      | cons c cs => rfl
    unfold readExponent
    cases neg <;>
      simp only [exponentChars, List.cons_append, true_or, reduceIte, Bool.false_eq_true, htake,
        hempty, Option.map_some, exponentValue] <;> rfl

/-- **A numeral with a fraction or an exponent is read as the number nearest to its decimal.** -/
theorem readNumber_numeral (neg : Bool) (hn : n.WellFormed) (hpointed : n.isPointed)
    (hrest : endsNumber rest) : readNumber neg (n.chars ++ rest) =
      some (.float (Double.ofDecimal neg n.coefficient n.scale), rest) := by
  have hwhole := readWhole_append hn.whole_ne_nil hn.isDigit_whole hn.leadingZero
    (n.head?_tail hrest)
  have hfraction := readFraction_append hn.isDigit_fraction (head?_exponentChars n.exponent hrest)
  have hexponent := readExponent_append hn.isDigit_exponent hrest
  have hsome : (n.fraction.isEmpty && (n.exponent.map fun e => exponentValue (some e)).isNone) =
      false := by
    rcases hpointed with h | h
    · rw [List.isEmpty_eq_false_iff.mpr h, Bool.false_and]
    · rw [Option.isNone_map, Option.isNone_eq_false_iff.mpr (Option.isSome_iff_ne_none.mpr h),
        Bool.and_false]
  have hvalue : (n.exponent.map fun e => exponentValue (some e)).getD 0 = exponentValue n.exponent := by
    cases n.exponent <;> rfl
  rw [chars, List.append_assoc, List.append_assoc, readNumber, hwhole]
  simp only [Option.bind_eq_bind, Option.bind_some, hfraction, hexponent, hsome, hvalue,
    Bool.false_eq_true, reduceIte]
  rfl

/-- **Digits alone are read as the integer that they denote**, if they are not too many. -/
theorem readNumber_toDigits (neg : Bool) (k : ℕ) (hrest : endsNumber rest)
    (hlen : (Nat.toDigits 10 k).length ≤ maxDigits) :
    readNumber neg (Nat.toDigits 10 k ++ rest) = some (.int (if neg then -k else k), rest) := by
  have hzero : Nat.toDigits 10 k = ['0'] ∨ (Nat.toDigits 10 k).head? ≠ some '0' := by
    rcases Nat.eq_zero_or_pos k with rfl | hk
    · exact .inl (Nat.toDigits_zero 10)
    · exact .inr (Number.head?_toDigits hk)
  have hwhole := readWhole_append Nat.toDigits_ne_nil
    (fun c hc => Number.isDigit_of_mem_toDigits hc) hzero (fun c hc => (hrest c hc).1)
  have hfraction : readFraction rest = ([], rest) :=
    readFraction_append (List.forall_mem_nil _) fun c hc => ⟨(hrest c hc).1, (hrest c hc).2.1⟩
  have hexponent : readExponent rest = (none, rest) :=
    readExponent_append (e := none) (by simp) hrest
  have hvalue : digitsValue (Nat.toDigits 10 k) = k := Number.digitsValue_toDigits k
  rw [readNumber, hwhole]
  simp only [Option.bind_eq_bind, Option.bind_some, hfraction, hexponent, List.isEmpty_nil,
    Option.isNone_none, Bool.and_self, reduceIte, hvalue, not_lt.mpr hlen]
  rfl

end Json

/-! ### Reading numerals as free text -/

namespace Number

open Numeral

/-- **A numeral is read as the number nearest to its decimal.** -/
theorem readDecimal?_numeral {n : Numeral} (neg : Bool) (hn : n.WellFormed) :
    readDecimal? neg n.chars = some (Double.ofDecimal neg n.coefficient n.scale) := by
  obtain ⟨whole, fraction, exponent⟩ := n
  obtain ⟨hne, hwhole, hfraction, hexponent, -⟩ := hn
  have hend : endsNumber [] := by simp [endsNumber]
  have hhead := head?_tail ⟨whole, fraction, exponent⟩ hend
  have hhead' := head?_exponentChars exponent hend
  simp only [List.append_nil] at hne hwhole hfraction hexponent hhead hhead'
  obtain ⟨htake, hdrop⟩ := dropWhile_isDigit_append hwhole hhead
  obtain ⟨htake', hdrop'⟩ := dropWhile_isDigit_append hfraction fun c hc => (hhead' c hc).1
  have hempty : whole.isEmpty = false := List.isEmpty_eq_false_iff.mpr hne
  -- The exponent, once it is reached.
  have hgood : ∀ eneg digits, exponent = some (eneg, digits) →
      (digits.isEmpty || !digits.all isDigit) = false := by
    intro eneg digits he
    obtain ⟨hne, hall⟩ := hexponent eneg digits he
    rw [List.isEmpty_eq_false_iff.mpr hne, List.all_eq_true.mpr hall]
    rfl
  unfold readDecimal?
  rw [chars]
  simp only [htake, hdrop, hempty, Bool.false_and, Bool.false_eq_true, reduceIte, coefficient, scale]
  rcases fraction with _ | ⟨f, fs⟩
  · rcases exponent with _ | ⟨eneg, digits⟩
    · rfl
    · cases eneg <;> simp [exponentChars, takeSign, hgood _ _ rfl, exponentValue]
  · simp only [List.cons_append] at htake' hdrop'
    simp only [reduceCtorEq, reduceIte, List.cons_append, htake', hdrop']
    rcases exponent with _ | ⟨eneg, digits⟩
    · rfl
    · cases eneg <;> simp [exponentChars, takeSign, hgood _ _ rfl, exponentValue]

/-- The characters of numerals. -/
def numeralAlphabet : List Char :=
  ['0', '1', '2', '3', '4', '5', '6', '7', '8', '9', '.', 'e', '+', '-']

theorem mem_numeralAlphabet_of_isDigit {c : Char} (h : isDigit c = true) : c ∈ numeralAlphabet := by
  rw [isDigit_eq, Char.isDigit_iff_toNat] at h
  obtain ⟨hlow, hhigh⟩ := h
  rw [← Char.ofNat_toNat c]
  generalize c.toNat = n at hlow hhigh
  have hlow' : 48 ≤ n := hlow
  have hhigh' : n ≤ 57 := hhigh
  interval_cases n <;> decide

theorem mem_numeralAlphabet {n : Numeral} (hn : n.WellFormed) {c : Char} (h : c ∈ n.chars) :
    c ∈ numeralAlphabet := by
  rw [Numeral.chars, List.mem_append, List.mem_append] at h
  rcases h with h | h | h
  · exact mem_numeralAlphabet_of_isDigit (hn.isDigit_whole c h)
  · split at h
    · cases h
    · rcases List.mem_cons.mp h with rfl | h
      · decide
      · exact mem_numeralAlphabet_of_isDigit (hn.isDigit_fraction c h)
  · cases he : n.exponent with
    | none =>
      rw [he] at h
      cases h
    | some e =>
      obtain ⟨neg, digits⟩ := e
      rw [he, exponentChars] at h
      rcases List.mem_cons.mp h with rfl | h
      · decide
      rcases List.mem_cons.mp h with rfl | h
      · cases neg <;> decide
      · exact mem_numeralAlphabet_of_isDigit ((hn.isDigit_exponent _ _ he).2 c h)

theorem dropWhile_eq_self {p : Char → Bool} {cs : List Char} (h : ∀ c ∈ cs, p c = false) :
    cs.dropWhile p = cs := by
  cases cs with
  | nil => rfl
  | cons c cs => rw [List.dropWhile_cons, h c List.mem_cons_self, if_neg Bool.false_ne_true]

theorem trimmed_eq_self {cs : List Char} (h : ∀ c ∈ cs, c ∈ numeralAlphabet) : trimmed cs = cs := by
  have hsmall : ∀ c ∈ numeralAlphabet, c.toNat < 127 := by simp [numeralAlphabet]
  have hink : ∀ c ∈ numeralAlphabet, Text.isAsciiBlank c = false := by
    simp [numeralAlphabet, Text.isAsciiBlank]
  have hascii : cs.map asciiForm = cs :=
    (List.map_congr_left fun c hc => if_pos (hsmall c (h c hc))).trans (List.map_id cs)
  have hblank : ∀ c ∈ cs, Text.isAsciiBlank c = false := fun c hc => hink c (h c hc)
  have hreverse : ∀ c ∈ cs.reverse, Text.isAsciiBlank c = false := fun c hc =>
    hblank c (List.mem_reverse.mp hc)
  simp only [trimmed, hascii, dropWhile_eq_self hblank, dropWhile_eq_self hreverse,
    List.reverse_reverse]

theorem dropUnderscores?_eq_some {cs : List Char} (h : ∀ c ∈ cs, c ≠ '_') (afterDigit : Bool) :
    dropUnderscores? afterDigit cs = some cs := by
  induction cs generalizing afterDigit with
  | nil => rfl
  | cons c cs ih =>
    obtain ⟨hc, hcs⟩ := List.forall_mem_cons.mp h
    rw [dropUnderscores?, ih hcs, Option.map_some]
    · rintro _ _ rfl
      exact absurd rfl hc
    · rintro rfl
      exact absurd rfl hc

theorem ne_of_mem_numeralAlphabet {cs : List Char} (h : ∀ c ∈ cs, c ∈ numeralAlphabet) {d : Char}
    (hd : d ∉ numeralAlphabet) : ∀ c ∈ cs, c ≠ d := by
  rintro c hc rfl
  exact hd (h c hc)

theorem map_toLower_eq_self {cs : List Char} (h : ∀ c ∈ cs, c ∈ numeralAlphabet) :
    cs.map Char.toLower = cs := by
  have hlower : ∀ c ∈ numeralAlphabet, c.toLower = c := by simp [numeralAlphabet]
  exact (List.map_congr_left fun c hc => hlower c (h c hc)).trans (List.map_id cs)

/-- What begins with a digit has no sign. -/
theorem takeSign_of_isDigit {c : Char} (hc : isDigit c = true) (cs : List Char) :
    takeSign (c :: cs) = (false, c :: cs) := by
  rw [takeSign]
  · rintro rest ⟨rfl, -⟩
    exact absurd hc (by decide)
  · rintro rest ⟨rfl, -⟩
    exact absurd hc (by decide)

/-- **A natural is read from its digits.** -/
theorem readInt?_toDigits {k : ℕ} (hlength : (Nat.toDigits 10 k).length ≤ maxIntDigits) :
    readInt? (Nat.toDigits 10 k) = some k := by
  have hdigits : ∀ c ∈ Nat.toDigits 10 k, isDigit c = true := fun c hc => isDigit_of_mem_toDigits hc
  have halphabet : ∀ c ∈ Nat.toDigits 10 k, c ∈ numeralAlphabet := fun c hc =>
    mem_numeralAlphabet_of_isDigit (hdigits c hc)
  obtain ⟨c, cs, hcons⟩ := List.exists_cons_of_ne_nil (Nat.toDigits_ne_nil (b := 10) (n := k))
  have hsign : takeSign (Nat.toDigits 10 k) = (false, Nat.toDigits 10 k) := by
    rw [hcons]
    exact takeSign_of_isDigit (hdigits c (hcons ▸ List.mem_cons_self)) cs
  have hempty : (Nat.toDigits 10 k).isEmpty = false :=
    List.isEmpty_eq_false_iff.mpr Nat.toDigits_ne_nil
  rw [readInt?, trimmed_eq_self halphabet, hsign]
  simp only [dropUnderscores?_eq_some (ne_of_mem_numeralAlphabet halphabet (by decide)),
    Option.bind_eq_bind, Option.bind_some, hempty, List.all_eq_true.mpr hdigits, Bool.not_true,
    Bool.or_self, Bool.false_or, digitsValue_toDigits]
  rw [if_neg (by simpa using hlength)]
  rfl

/-- **A numeral is read as the number nearest to its decimal,** also where words for numbers are
known. -/
theorem readDouble?_numeral {n : Numeral} (hn : n.WellFormed) :
    readDouble? n.chars = some (Double.ofDecimal false n.coefficient n.scale) := by
  have halphabet : ∀ c ∈ n.chars, c ∈ numeralAlphabet := fun c hc => mem_numeralAlphabet hn hc
  obtain ⟨c, cs, hcons⟩ := List.exists_cons_of_ne_nil hn.whole_ne_nil
  have hc : isDigit c = true := hn.isDigit_whole c (hcons ▸ List.mem_cons_self)
  obtain ⟨cs', hchars⟩ : ∃ cs', n.chars = c :: cs' := ⟨_, by rw [Numeral.chars, hcons]; rfl⟩
  have hsign : takeSign n.chars = (false, n.chars) := by
    rw [hchars]
    exact takeSign_of_isDigit hc cs'
  have hword : ∀ w : List Char, w.head?.all (fun d => !isDigit d) = true → w ≠ [] →
      String.ofList n.chars ≠ String.ofList w := by
    rintro w hhead hne heq
    obtain rfl := String.ofList_injective heq
    rw [hchars] at hhead
    simp [hc] at hhead
  have hinf : String.ofList n.chars ≠ "inf" := hword ['i', 'n', 'f'] rfl (List.cons_ne_nil _ _)
  have hinfinity : String.ofList n.chars ≠ "infinity" :=
    hword ['i', 'n', 'f', 'i', 'n', 'i', 't', 'y'] rfl (List.cons_ne_nil _ _)
  have hnan : String.ofList n.chars ≠ "nan" := hword ['n', 'a', 'n'] rfl (List.cons_ne_nil _ _)
  rw [readDouble?, trimmed_eq_self halphabet, hsign]
  simp only [map_toLower_eq_self halphabet, hinf, hinfinity, hnan, decide_false, Bool.or_self,
    Bool.false_eq_true, reduceIte, Option.bind_some, readDecimal?_numeral false hn,
    dropUnderscores?_eq_some (ne_of_mem_numeralAlphabet halphabet (by decide))]

end Number

/-! ### The layouts of a number -/

namespace Decimal

variable {d : Decimal}

theorem digits_ne_nil (d : Decimal) : d.digits ≠ [] := Nat.toDigits_ne_nil

theorem isDigit_of_mem_digits {c : Char} (h : c ∈ d.digits) : Number.isDigit c = true :=
  Number.isDigit_of_mem_toDigits h

theorem digitsValue_digits (d : Decimal) : Number.digitsValue d.digits = d.coefficient :=
  Number.digitsValue_toDigits _

/-- The exponent of the leading digit, counted from the last one. -/
theorem scale_add_length (d : Decimal) : d.scale + d.digits.length = d.exponent + 1 := by
  unfold exponent
  omega

theorem coefficient_lt (d : Decimal) : d.coefficient < 10 ^ d.digits.length :=
  (Nat.length_toDigits_le_iff (by norm_num) Nat.length_toDigits_pos).mp le_rfl

/-- **A numeral that spells a decimal.** -/
structure SpelledBy (d : Decimal) (n : Numeral) : Prop where
  wellFormed : n.WellFormed
  isPointed : n.isPointed
  units : Double.decimalUnits n.coefficient n.scale = d.units
  coefficient_pos : 0 < n.coefficient
  coefficient_lt : n.coefficient < 2 ^ 64

/-- A numeral with the digits of the decimal and its scale spells it. -/
theorem SpelledBy.of_eq {n : Numeral} (hpos : 0 < d.coefficient) (hle : d.coefficient ≤ 10 ^ 17)
    (hn : n.WellFormed) (hpointed : n.isPointed) (hcoef : n.coefficient = d.coefficient)
    (hscale : n.scale = d.scale) : d.SpelledBy n where
  wellFormed := hn
  isPointed := hpointed
  units := by
    rw [hcoef, hscale]
    rfl
  coefficient_pos := hcoef ▸ hpos
  coefficient_lt := by omega

/-- The leading digit of a positive decimal is no zero. -/
theorem head?_digits (hpos : 0 < d.coefficient) : d.digits.head? ≠ some '0' :=
  Number.head?_toDigits hpos

/-- A number below one: zeros behind the point, then the digits. -/
def belowOne (d : Decimal) : Numeral :=
  ⟨['0'], List.replicate (-d.exponent - 1).toNat '0' ++ d.digits, none⟩

theorem spelledBy_belowOne (hpos : 0 < d.coefficient) (hle : d.coefficient ≤ 10 ^ 17)
    (he : d.exponent < 0) : d.SpelledBy d.belowOne := by
  have hne : d.belowOne.fraction ≠ [] := by simp [belowOne, digits_ne_nil]
  refine .of_eq hpos hle ?_ (.inl hne) ?_ ?_
  · refine ⟨List.cons_ne_nil _ _, ?_, fun c hc => ?_, by simp [belowOne], .inl rfl⟩
    · exact List.forall_mem_singleton.mpr rfl
    rcases List.mem_append.mp hc with hc | hc
    · rw [List.eq_of_mem_replicate hc]
      rfl
    · exact isDigit_of_mem_digits hc
  · have hcoef : d.belowOne.coefficient =
        Number.digitsValue (List.replicate (1 + (-d.exponent - 1).toNat) '0' ++ d.digits) := by
      rw [Numeral.coefficient, belowOne, ← List.append_assoc, List.replicate_add]
      rfl
    rw [hcoef, Number.digitsValue_append, Number.digitsValue_replicate_zero, digitsValue_digits,
      Nat.zero_mul, Nat.zero_add]
  · have := d.scale_add_length
    simp only [Numeral.scale, belowOne, Numeral.exponentValue, List.length_append,
      List.length_replicate]
    omega

/-- A whole number: the digits and zeros, and one more zero behind the point. -/
def wholeNumber (d : Decimal) : Numeral :=
  ⟨d.digits ++ List.replicate d.scale.toNat '0', ['0'], none⟩

theorem spelledBy_wholeNumber (hpos : 0 < d.coefficient) (hscale : 0 ≤ d.scale)
    (he : d.exponent < 16) : d.SpelledBy d.wholeNumber := by
  have hlen := d.scale_add_length
  obtain ⟨k, hk⟩ : ∃ k : ℕ, d.scale = k := ⟨d.scale.toNat, by omega⟩
  have hcoef : d.wholeNumber.coefficient = d.coefficient * 10 ^ (k + 1) := by
    have hzeros : List.replicate k '0' ++ ['0'] = List.replicate (k + 1) '0' := by
      rw [List.replicate_succ']
    rw [Numeral.coefficient, wholeNumber, hk, Int.toNat_natCast, List.append_assoc, hzeros,
      Number.digitsValue_append, digitsValue_digits, Number.digitsValue_replicate_zero,
      List.length_replicate, Nat.add_zero]
  have hscale' : d.wholeNumber.scale = d.scale - ((k + 1 : ℕ) : ℤ) := by
    simp only [Numeral.scale, wholeNumber, Numeral.exponentValue, List.length_singleton]
    omega
  refine ⟨⟨?_, fun c hc => ?_, List.forall_mem_singleton.mpr rfl, by simp [wholeNumber], .inr ?_⟩,
    .inl (List.cons_ne_nil _ _), ?_, ?_, ?_⟩
  · simp [wholeNumber, digits_ne_nil]
  · rcases List.mem_append.mp hc with hc | hc
    · exact isDigit_of_mem_digits hc
    · rw [List.eq_of_mem_replicate hc]
      rfl
  · rw [wholeNumber, List.head?_append_of_ne_nil _ d.digits_ne_nil]
    exact head?_digits hpos
  · rw [hcoef, hscale', Double.decimalUnits_shift, units]
  · rw [hcoef]
    positivity
  · rw [hcoef]
    calc d.coefficient * 10 ^ (k + 1) < 10 ^ d.digits.length * 10 ^ (k + 1) :=
          Nat.mul_lt_mul_of_pos_right d.coefficient_lt (by positivity)
      _ = 10 ^ (d.digits.length + (k + 1)) := (pow_add _ _ _).symm
      _ ≤ 10 ^ 17 := Nat.pow_le_pow_right (by norm_num) (by omega)
      _ < 2 ^ 64 := by norm_num

/-- A number with digits on both sides of the point. -/
def mixedNumber (d : Decimal) : Numeral :=
  ⟨d.digits.take (d.exponent + 1).toNat, d.digits.drop (d.exponent + 1).toNat, none⟩

theorem spelledBy_mixedNumber (hpos : 0 < d.coefficient) (hle : d.coefficient ≤ 10 ^ 17)
    (hscale : d.scale < 0) (he : 0 ≤ d.exponent) : d.SpelledBy d.mixedNumber := by
  have hlen := d.scale_add_length
  obtain ⟨k, hk⟩ : ∃ k : ℕ, d.exponent = k := ⟨d.exponent.toNat, by omega⟩
  have hk' : (d.exponent + 1).toNat = k + 1 := by omega
  have hfraction : d.mixedNumber.fraction.length = d.digits.length - (k + 1) := by
    rw [mixedNumber, hk', List.length_drop]
  have hne : d.mixedNumber.fraction ≠ [] := by
    rw [← List.length_pos_iff, hfraction]
    omega
  refine .of_eq hpos hle ⟨?_, fun c hc => ?_, fun c hc => ?_, by simp [mixedNumber], .inr ?_⟩
    (.inl hne) ?_ ?_
  · simp [mixedNumber, hk', digits_ne_nil]
  · exact isDigit_of_mem_digits (List.mem_of_mem_take hc)
  · exact isDigit_of_mem_digits (List.mem_of_mem_drop hc)
  · rw [mixedNumber, hk', List.head?_take, if_neg (Nat.succ_ne_zero k)]
    exact head?_digits hpos
  · rw [Numeral.coefficient, mixedNumber, List.take_append_drop, digitsValue_digits]
  · rw [Numeral.scale, hfraction]
    simp only [mixedNumber, Numeral.exponentValue]
    omega

/-- The scientific notation: one digit before the point, and at least two in the exponent. -/
def scientific (d : Decimal) : Numeral :=
  ⟨d.digits.take 1, d.digits.drop 1, some (decide (d.exponent < 0),
    if (Nat.toDigits 10 d.exponent.natAbs).length < 2 then '0' :: Nat.toDigits 10 d.exponent.natAbs
    else Nat.toDigits 10 d.exponent.natAbs)⟩

theorem spelledBy_scientific (hpos : 0 < d.coefficient) (hle : d.coefficient ≤ 10 ^ 17) :
    d.SpelledBy d.scientific := by
  have hlen := d.scale_add_length
  have hvalue : ∀ ds, Number.digitsValue ('0' :: ds) = Number.digitsValue ds := fun ds => by
    have h := Number.digitsValue_append ['0'] ds
    rw [show Number.digitsValue ['0'] = 0 from rfl, Nat.zero_mul, Nat.zero_add] at h
    exact h
  refine .of_eq hpos hle ⟨?_, fun c hc => ?_, fun c hc => ?_, fun neg digits h => ?_, .inr ?_⟩
    (.inr (Option.some_ne_none _)) ?_ ?_
  · simp [scientific, digits_ne_nil]
  · exact isDigit_of_mem_digits (List.mem_of_mem_take hc)
  · exact isDigit_of_mem_digits (List.mem_of_mem_drop hc)
  · obtain ⟨-, rfl⟩ := Prod.mk.inj (Option.some.inj h)
    split
    · refine ⟨List.cons_ne_nil _ _, fun c hc => ?_⟩
      rcases List.mem_cons.mp hc with rfl | hc
      · rfl
      · exact Number.isDigit_of_mem_toDigits hc
    · exact ⟨Nat.toDigits_ne_nil, fun c hc => Number.isDigit_of_mem_toDigits hc⟩
  · rw [scientific, List.head?_take, if_neg one_ne_zero]
    exact head?_digits hpos
  · rw [Numeral.coefficient, scientific, List.take_append_drop, digitsValue_digits]
  · have hexp : Numeral.exponentValue d.scientific.exponent = d.exponent := by
      have hdigits : (Number.digitsValue
          (if (Nat.toDigits 10 d.exponent.natAbs).length < 2 then
            '0' :: Nat.toDigits 10 d.exponent.natAbs
          else Nat.toDigits 10 d.exponent.natAbs)) = d.exponent.natAbs := by
        split
        · rw [hvalue, Number.digitsValue_toDigits]
        · rw [Number.digitsValue_toDigits]
      rw [scientific, Numeral.exponentValue, hdigits]
      split
      · next h =>
        have := of_decide_eq_true h
        omega
      · next h =>
        have := of_decide_eq_false (Bool.eq_false_of_not_eq_true h)
        omega
    have hpos' : 0 < d.digits.length := List.length_pos_iff.mpr d.digits_ne_nil
    rw [Numeral.scale, hexp]
    simp only [scientific, List.length_drop]
    omega

end Decimal

namespace Double

/-- **Every layout of a decimal is a numeral that spells it.** -/
theorem exists_numeral {d : Decimal} (hpos : 0 < d.coefficient) (hle : d.coefficient ≤ 10 ^ 17) :
    ∃ n, d.SpelledBy n ∧ n.chars = layout d := by
  unfold layout
  simp only []
  split
  · next hrange =>
    split
    · next he =>
      refine ⟨d.belowOne, Decimal.spelledBy_belowOne hpos hle he, ?_⟩
      simp [Numeral.chars, Decimal.belowOne, Decimal.digits_ne_nil, Numeral.exponentChars]
    · next he =>
      split
      · next hscale =>
        refine ⟨d.wholeNumber, Decimal.spelledBy_wholeNumber hpos hscale hrange.2, ?_⟩
        simp [Numeral.chars, Decimal.wholeNumber, Numeral.exponentChars]
      · next hscale =>
        have hspelled := Decimal.spelledBy_mixedNumber hpos hle (not_le.mp hscale) (not_lt.mp he)
        refine ⟨d.mixedNumber, hspelled, ?_⟩
        have hne : d.mixedNumber.fraction ≠ [] := by
          rcases hspelled.isPointed with h | h
          · exact h
          · exact absurd rfl h
        rw [Numeral.chars, if_neg hne]
        simp [Decimal.mixedNumber, Numeral.exponentChars]
  · refine ⟨d.scientific, Decimal.spelledBy_scientific hpos hle, ?_⟩
    simp only [Numeral.chars, Decimal.scientific, List.drop_eq_nil_iff, Numeral.exponentChars,
      decide_eq_true_eq, List.append_assoc]

/-- **What is written for a finite number**: its sign and a numeral whose decimal rounds to it. -/
theorem exists_numeral_chars {d : Double} (hd : d.isFinite = true) :
    ∃ n : Numeral, n.WellFormed ∧ n.isPointed ∧
      d.chars = (if d.isNegative then ['-'] else []) ++ n.chars ∧
      ofDecimal d.isNegative n.coefficient n.scale = d := by
  cases d with
  | nan => cases hd
  | inf => cases hd
  | finite neg m q hc =>
    rcases Nat.eq_zero_or_pos m with rfl | hm
    · obtain rfl : q = 0 := by
        rcases hc.2.2 with h | h
        · exact h
        · exact absurd h (by decide)
      refine ⟨⟨['0'], ['0'], none⟩, ⟨by simp, ?_, ?_, by simp, .inl rfl⟩, .inl (by simp), rfl, ?_⟩
      · exact List.forall_mem_singleton.mpr rfl
      · exact List.forall_mem_singleton.mpr rfl
      · exact if_pos rfl
    · obtain ⟨hrounds, hpos, hle⟩ := shortest_rounds hm hc
      obtain ⟨n, hn, hchars⟩ := exists_numeral hpos hle
      refine ⟨n, hn.wellFormed, hn.isPointed, ?_, ?_⟩
      · have hm₀ : ¬m = 0 := by omega
        rw [chars, if_neg hm₀, hchars, isNegative]
      · exact ofDecimal_eq hc hm hn.coefficient_pos hn.coefficient_lt (hn.units ▸ hrounds)

end Double

end WizardLogic
