import Mathlib
import WizardLogic.Proofs.Json.RoundTrip
import WizardLogic.Proofs.Stateful
import WizardLogic.Yaml.Scanner

/-!
# JSON strings read as YAML

A JSON string stands in double quotes, and so does a scalar of YAML, where almost every character and
every escape that JSON writes means the same. This file follows the scanner through a string, one
iteration at a time (`Scan.ReadsStep`): the bare characters at its front are read together with the
escape, the spaces or the line separators behind them. The result is that a string is read back up to
its closing quote (`Scan.quotedScalar_quote`).

It holds for the strings that are kept (`Scan.keepsText`). The other ones have a character that cannot
stand in YAML or that is folded like the end of a line, or they have a line separator with a space
beside it or with a mark between documents behind it.
-/

namespace WizardLogic.Yaml

open Json (escapeChar unitEscape quote)
open Stateful

/-! ### Cursors -/

namespace Cursor

variable (c : Cursor)

theorem skip_rest (n : ℕ) : (c.skip n).rest = c.rest.drop n := by
  induction n generalizing c with
  | zero => rfl
  | succ n ih =>
    rw [skip, ih]
    rcases c with ⟨_ | ⟨ch, rest⟩, _, _, _⟩
    · simp [next]
    · simp only [next, List.drop_succ_cons]
      split <;> [skip; split] <;> rfl

theorem skip_skip (m n : ℕ) : (c.skip m).skip n = c.skip (m + n) := by
  induction m generalizing c with
  | zero => rw [skip, Nat.zero_add]
  | succ m ih => rw [Nat.succ_add, skip, skip, ih]

theorem skip_append {cs rest : List Char} (h : c.rest = cs ++ rest) :
    (c.skip cs.length).rest = rest := by
  rw [skip_rest, h, List.drop_left]

theorem skip_cons {ch : Char} {rest : List Char} (h : c.rest = ch :: rest) :
    (c.skip 1).rest = rest := by
  rw [skip_rest, h, List.drop_succ_cons, List.drop_zero]

theorem skip_index {n : ℕ} (hn : n ≤ c.rest.length) : (c.skip n).index = c.index + n := by
  induction n generalizing c with
  | zero => rfl
  | succ n ih =>
    rcases c with ⟨_ | ⟨ch, rest⟩, i, l, k⟩
    · simp at hn
    · rw [skip, ih]
      · simp only [next]
        split <;> [skip; split] <;> (dsimp only; omega)
      · simp only [next]
        split <;> [skip; split] <;> simpa using hn

theorem skip_line {n : ℕ} (hn : ∀ ch ∈ c.rest.take n, isBreak ch = false) :
    (c.skip n).line = c.line := by
  induction n generalizing c with
  | zero => rfl
  | succ n ih =>
    rcases c with ⟨_ | ⟨ch, rest⟩, i, l, k⟩
    · rw [skip]
      exact ih _ (by simp [next])
    · rw [List.take_succ_cons, List.forall_mem_cons] at hn
      rw [skip, ih]
      · simp only [next, hn.1, Bool.false_eq_true, reduceIte]
        split <;> rfl
      · simp only [next, hn.1, Bool.false_eq_true, reduceIte]
        split <;> exact hn.2

end Cursor

namespace Scan

variable {c : Cursor}

theorem peek_run (c : Cursor) : peek c = .ok (c.rest.head?, c) := rfl

theorem skip_run (n : ℕ) (c : Cursor) : skip n c = .ok ((), c.skip n) := rfl

/-- Characters that satisfy a condition are taken up to the first that does not. -/
theorem takeWhile_run {p : Char → Bool} {cs rest : List Char} (h : c.rest = cs ++ rest)
    (hcs : ∀ ch ∈ cs, p ch = true) (hrest : ∀ ch ∈ rest.head?, p ch = false) :
    takeWhile p c = .ok (cs, c.skip cs.length) := by
  have htake : c.rest.takeWhile p = cs := by
    rw [h, List.takeWhile_append_of_pos hcs]
    cases rest with
    | nil => simp
    | cons d rest => simp [hrest d rfl]
  change Except.ok (c.rest.takeWhile p, c.skip (c.rest.takeWhile p).length) = _
  rw [htake]

/-- Nothing is taken where the first character does not satisfy the condition. -/
theorem takeWhile_run_nil {p : Char → Bool} (h : ∀ ch ∈ c.rest.head?, p ch = false) :
    takeWhile p c = .ok ([], c) :=
  takeWhile_run (List.nil_append _).symm (List.forall_mem_nil _) h

/-! ### One character of a string -/

section Step

variable {n : ℕ} {plain rest : List Char}

/-- What is behind the ordinary characters at the front of a scalar in quotes. -/
theorem takeOrdinary {ch : Char} (h : c.rest = plain ++ ch :: rest)
    (hplain : ∀ d ∈ plain, isOrdinary d = true) (hch : isOrdinary ch = false) :
    takeWhile isOrdinary c = .ok (plain, c.skip plain.length) ∧
      (c.skip plain.length).rest = ch :: rest :=
  ⟨takeWhile_run h hplain (by simpa using hch), c.skip_append h⟩

/-- The closing quote ends the scalar. -/
theorem quotedText_close (h : c.rest = plain ++ '"' :: rest)
    (hplain : ∀ d ∈ plain, isOrdinary d = true) :
    quotedText true (n + 1) c = .ok (plain, c.skip (plain.length + 1)) := by
  obtain ⟨htake, hrest⟩ := takeOrdinary h hplain rfl
  rw [quotedText, bind_of_ok htake, bind_of_ok (peek_run _), hrest]
  simp only [List.head?_cons, Bool.not_true, Bool.false_and, Bool.true_and, decide_true,
    Bool.false_eq_true, reduceIte]
  rw [bind_of_ok (skip_run _ _), pure_run, Cursor.skip_skip]

/-- An escape of one letter. -/
theorem quotedText_escape {e d : Char} {more : List Char} {c' : Cursor}
    (h : c.rest = plain ++ '\\' :: e :: rest) (hplain : ∀ d ∈ plain, isOrdinary d = true)
    (he : escape? e = some d)
    (hmore : quotedText true n (c.skip (plain.length + 2)) = .ok (more, c')) :
    quotedText true (n + 1) c = .ok (plain ++ d :: more, c') := by
  obtain ⟨htake, hrest⟩ := takeOrdinary h hplain rfl
  have hnext : ((c.skip plain.length).skip 1).rest = e :: rest := by
    rw [Cursor.skip_rest, hrest]
    rfl
  rw [quotedText, bind_of_ok htake, bind_of_ok (peek_run _), hrest]
  simp only [List.head?_cons, Bool.not_true, Bool.false_and, Bool.true_and, decide_true,
    Bool.false_eq_true, reduceIte, Char.reduceEq, decide_false]
  rw [bind_of_ok (skip_run _ _), bind_of_ok (peek_run _), hnext]
  simp only [List.head?_cons, he]
  rw [bind_of_ok (skip_run _ _), pure_bind, Cursor.skip_skip, Cursor.skip_skip,
    bind_of_ok hmore, pure_run]
  simp

/-- The characters up to the control characters are escaped by four digits. -/
theorem hexDigits_unitEscape : ∀ k < 32, ((unitEscape k).drop 2).mapM hexDigit? =
    some [0, 0, k / 16, k % 16] := by
  decide

theorem hexNumber_unitEscape {k : ℕ} (hk : k < 32)
    (h : c.rest = (unitEscape k).drop 2 ++ rest) : hexNumber 4 c = .ok (k, c.skip 4) := by
  have htake : take 4 c = .ok ((unitEscape k).drop 2, c.skip 4) := by
    change Except.ok (c.rest.take 4, c.skip 4) = _
    rw [h]
    rfl
  have hfold : [0, 0, k / 16, k % 16].foldl (fun n d => n * 16 + d) 0 = k := by
    simp only [List.foldl_cons, List.foldl_nil]
    omega
  rw [hexNumber, bind_of_ok htake, hexDigits_unitEscape k hk]
  simp only [hfold]
  rfl

/-- An escape of four digits. -/
theorem quotedText_unitEscape {d : Char} {more : List Char} {c' : Cursor}
    (hd : d.toNat < 32) (h : c.rest = plain ++ (unitEscape d.toNat ++ rest))
    (hplain : ∀ d ∈ plain, isOrdinary d = true)
    (hmore : quotedText true n (c.skip (plain.length + 6)) = .ok (more, c')) :
    quotedText true (n + 1) c = .ok (plain ++ d :: more, c') := by
  have h' : c.rest = plain ++ '\\' :: 'u' :: ((unitEscape d.toNat).drop 2 ++ rest) := h
  obtain ⟨htake, hrest⟩ := takeOrdinary h' hplain rfl
  have hnext : ((c.skip plain.length).skip 1).rest =
      'u' :: ((unitEscape d.toNat).drop 2 ++ rest) := by
    rw [Cursor.skip_rest, hrest]
    rfl
  have hdigits : (((c.skip plain.length).skip 1).skip 1).rest =
      (unitEscape d.toNat).drop 2 ++ rest := by
    rw [Cursor.skip_rest, hnext]
    rfl
  have hchar : charOf d.toNat = pure d := by
    have hsmall : ¬d.toNat ≥ Nat.pow 2 31 := by norm_num; omega
    rw [charOf, if_neg hsmall, if_neg (by omega), Char.ofNat_toNat]
  rw [quotedText, bind_of_ok htake, bind_of_ok (peek_run _), hrest]
  simp only [List.head?_cons, Bool.not_true, Bool.false_and, Bool.true_and, decide_true,
    Bool.false_eq_true, reduceIte, Char.reduceEq, decide_false]
  rw [bind_of_ok (skip_run _ _), bind_of_ok (peek_run _), hnext]
  have hescape : escape? 'u' = none ∧ escapeDigits? 'u' = some 4 := ⟨rfl, rfl⟩
  simp only [List.head?_cons, hescape]
  rw [bind_of_ok (skip_run _ _), bind_of_ok (hexNumber_unitEscape hd hdigits), hchar, pure_bind,
    Cursor.skip_skip, Cursor.skip_skip, Cursor.skip_skip]
  simp only [pure_bind]
  rw [bind_of_ok hmore, pure_run]
  simp

/-- An apostrophe stands for itself. -/
theorem quotedText_apostrophe {more : List Char} {c' : Cursor}
    (h : c.rest = plain ++ '\'' :: rest) (hplain : ∀ d ∈ plain, isOrdinary d = true)
    (hmore : quotedText true n (c.skip (plain.length + 1)) = .ok (more, c')) :
    quotedText true (n + 1) c = .ok (plain ++ '\'' :: more, c') := by
  obtain ⟨htake, hrest⟩ := takeOrdinary h hplain rfl
  rw [quotedText, bind_of_ok htake, bind_of_ok (peek_run _), hrest]
  simp only [List.head?_cons, Bool.not_true, Bool.false_and, Bool.true_and, decide_true,
    Bool.false_eq_true, reduceIte, Char.reduceEq, decide_false, Bool.true_or]
  rw [bind_of_ok (skip_run _ _), Cursor.skip_skip, bind_of_ok hmore, pure_run]

/-- White space between the ordinary characters is read on its own. -/
theorem quotedText_spaces {ch : Char} {space more : List Char} {c' c'' : Cursor}
    (h : c.rest = plain ++ ch :: rest) (hplain : ∀ d ∈ plain, isOrdinary d = true)
    (hch : endsWord (some ch) = true)
    (hspace : quotedSpaces (c.skip plain.length) = .ok (space, c'))
    (hmore : quotedText true n c' = .ok (more, c'')) :
    quotedText true (n + 1) c = .ok (plain ++ space ++ more, c'') := by
  have hordinary : isOrdinary ch = false := by simp [isOrdinary, hch]
  have hne : ch ≠ '\'' ∧ ch ≠ '"' ∧ ch ≠ '\\' := by
    refine ⟨?_, ?_, ?_⟩ <;> (rintro rfl; exact absurd hch (by decide))
  obtain ⟨htake, hrest⟩ := takeOrdinary h hplain hordinary
  rw [quotedText, bind_of_ok htake, bind_of_ok (peek_run _), hrest]
  simp only [List.head?_cons, Bool.not_true, Bool.false_and, Bool.true_and, hne, decide_false,
    Bool.false_eq_true, reduceIte, Bool.or_self]
  rw [bind_of_ok hspace, bind_of_ok hmore, pure_run]

end Step

/-! ### White space in a string -/

/-- Spaces inside a line stand for themselves. -/
theorem quotedSpaces_spaces {k : ℕ} {ch : Char} {rest : List Char}
    (h : c.rest = List.replicate k ' ' ++ ch :: rest) (hch : endsWord (some ch) = false) :
    quotedSpaces c = .ok (List.replicate k ' ', c.skip k) := by
  have hbreak : isBreak ch = false ∧ ch ≠ ' ' ∧ ch ≠ '\t' := by
    simpa [endsWord, endsItem, endsLine, and_assoc] using hch
  have htake := takeWhile_run (p := fun c => c = ' ' || c = '\t') h (by simp)
    (by simp [hbreak])
  have hrest := c.skip_append h
  rw [List.length_replicate] at htake hrest
  rw [quotedSpaces, bind_of_ok htake, bind_of_ok (peek_run _), hrest]
  simp only [List.head?_cons, hbreak.1, Bool.false_eq_true, reduceIte]
  rfl

/-! ### Line separators in a string -/

/-- The two line breaks that are kept inside a scalar in quotes. -/
def isSeparator (c : Char) : Bool := c = '\u2028' || c = '\u2029'

/-- Whether the characters behind a line break are taken for a mark between documents. -/
def startsSeparator (cs : List Char) : Bool :=
  (cs.take 3 = "---".toList || cs.take 3 = "...".toList) &&
    cs[3]?.any fun c => c = ' ' || isSeparator c

/-- **Whether the line separators of a string are kept**: no space is next to one, since the spaces
around a line break are dropped, and no mark between documents follows one. The flag tells whether a
space is in front. -/
def keepsSeparators : Bool → List Char → Bool
  | _, [] => true
  | afterSpace, c :: cs =>
    if isSeparator c then
      !afterSpace && cs.head? != some ' ' && !startsSeparator cs && keepsSeparators false cs
    else keepsSeparators (c = ' ') cs

/-- Whether a character of a string is written in a form that stands for it in YAML as well: it is
escaped, or it is printable and not a line break that is folded. -/
def keepsChar (c : Char) : Bool := c.toNat < 32 || (isPrintable c && c != '\u0085')

/-- Whether a character stands for itself and is written as itself. -/
def isBare (x : Char) : Bool := isOrdinary x && 32 ≤ x.toNat

/-- Whether a character is an ASCII character with a form of its own, the space included. -/
def isVisible (x : Char) : Bool := 32 ≤ x.toNat && x.toNat ≤ 126

/-- How a character is written in a string: as it is, or by one of two escapes. -/
theorem escapeChar_cases (x : Char) :
    (x ≠ '"' ∧ x ≠ '\\' ∧ 32 ≤ x.toNat ∧ escapeChar false x = [x]) ∨
      (∃ e, isBare x = false ∧ isVisible e = true ∧ escape? e = some x ∧
        escapeChar false x = ['\\', e]) ∨
      (x.toNat < 32 ∧ escapeChar false x = unitEscape x.toNat) := by
  have hescaped := Json.escapedAs_escapeChar false x
  generalize escapeChar false x = cs at hescaped
  cases hescaped with
  | @short e he =>
    have hletter : ∀ p ∈ Json.shortEscapes,
        isBare p.2 = false ∧ isVisible p.1 = true ∧ escape? p.1 = some p.2 := by decide
    obtain ⟨hbare, hvisible, hescape⟩ := hletter _ he
    exact .inr (.inl ⟨e, hbare, hvisible, hescape, rfl⟩)
  | plain hquote hback hlarge _ => exact .inl ⟨hquote, hback, hlarge, rfl⟩
  | unit hsmall _ => exact .inr (.inr ⟨hsmall.resolve_right Bool.false_ne_true, rfl⟩)
  | pair hascii _ => cases hascii

/-- The first character of what is written behind a place in a string: a quote at the end, a
backslash for an escape, or the next character itself. -/
theorem head?_escaped (cs rest : List Char) :
    ∃ ch, (cs.flatMap (escapeChar false) ++ '"' :: rest).head? = some ch ∧
      (ch = '"' ∨ ch = '\\' ∨
        32 ≤ ch.toNat ∧ ∃ cs', cs = ch :: cs' ∧ cs.flatMap (escapeChar false) ++ '"' :: rest =
          ch :: (cs'.flatMap (escapeChar false) ++ '"' :: rest)) := by
  cases cs with
  | nil => exact ⟨'"', rfl, .inl rfl⟩
  | cons x cs =>
    rw [List.flatMap_cons, List.append_assoc]
    rcases escapeChar_cases x with ⟨-, -, hx, h⟩ | ⟨e, -, -, -, h⟩ | ⟨-, h⟩
    · rw [h]
      exact ⟨x, rfl, .inr (.inr ⟨hx, cs, rfl, rfl⟩)⟩
    · rw [h]
      exact ⟨'\\', rfl, .inr (.inl rfl)⟩
    · rw [h]
      exact ⟨'\\', rfl, .inr (.inl rfl)⟩

theorem isBreak_of_keepsChar {x : Char} (h : keepsChar x = true) (hx : 32 ≤ x.toNat) :
    isBreak x = isSeparator x := by
  have hn : x ≠ '\n' := by
    rintro rfl
    exact absurd hx (by decide)
  have hnext : x ≠ '\u0085' := by
    rintro rfl
    exact absurd h (by decide)
  simp [isBreak, isSeparator, hn, hnext]

/-- What is written for a string begins with a character that is not escaped only if the string
does. -/
theorem eq_cons_of_escaped {cs rest tail : List Char} {ch : Char}
    (h : cs.flatMap (escapeChar false) ++ '"' :: rest = ch :: tail) (hquote : ch ≠ '"')
    (hback : ch ≠ '\\') : ∃ cs', cs = ch :: cs' ∧
      tail = cs'.flatMap (escapeChar false) ++ '"' :: rest := by
  obtain ⟨d, hd, hcases⟩ := head?_escaped cs rest
  obtain rfl : ch = d := by
    rw [h] at hd
    exact Option.some.inj hd
  rcases hcases with hd | hd | ⟨-, cs', hcs, heq⟩
  · exact absurd hd hquote
  · exact absurd hd hback
  · exact ⟨cs', hcs, (List.cons.inj (h.symm.trans heq)).2⟩

/-- Behind a line break in a string there is no mark between documents. -/
theorem atSeparator_eq_false {cs rest : List Char} (hcs : ∀ x ∈ cs, keepsChar x = true)
    (hmark : startsSeparator cs = false)
    (h : c.rest = cs.flatMap (escapeChar false) ++ '"' :: rest) : c.atSeparator = false := by
  rw [Bool.eq_false_iff]
  intro hat
  rw [Cursor.atSeparator, Bool.and_eq_true, Bool.or_eq_true, decide_eq_true_iff,
    decide_eq_true_iff] at hat
  obtain ⟨hthree, hends⟩ := hat
  -- The mark is three times one character, which is not escaped, so the string has it too.
  obtain ⟨d, tail, hd, hrest⟩ : ∃ d tail, (d = '-' ∨ d = '.') ∧ c.rest = d :: d :: d :: tail := by
    rcases hthree with hthree | hthree
    · exact ⟨'-', c.rest.drop 3, .inl rfl, by rw [← List.take_append_drop 3 c.rest, hthree]; rfl⟩
    · exact ⟨'.', c.rest.drop 3, .inr rfl, by rw [← List.take_append_drop 3 c.rest, hthree]; rfl⟩
  have hquote : d ≠ '"' ∧ d ≠ '\\' := by rcases hd with rfl | rfl <;> decide
  rw [hrest] at h
  obtain ⟨cs₁, rfl, h₁⟩ := eq_cons_of_escaped h.symm hquote.1 hquote.2
  obtain ⟨cs₂, rfl, h₂⟩ := eq_cons_of_escaped h₁.symm hquote.1 hquote.2
  obtain ⟨cs₃, rfl, h₃⟩ := eq_cons_of_escaped h₂.symm hquote.1 hquote.2
  obtain ⟨ch, hch, hcases⟩ := head?_escaped cs₃ rest
  have hnext : c.peekAt 3 = some ch := by
    rw [Cursor.peekAt, hrest, h₃, ← hch, List.head?_eq_getElem?]
    rfl
  rw [hnext] at hends
  rcases hcases with rfl | rfl | ⟨hlarge, cs₄, rfl, -⟩
  · exact absurd hends (by decide)
  · exact absurd hends (by decide)
  · have hkeep := isBreak_of_keepsChar (hcs ch (by simp)) hlarge
    have htab : ch ≠ '\t' := by
      rintro rfl
      exact absurd hlarge (by decide)
    have hjoint : ch = ' ' ∨ isSeparator ch = true := by
      simp only [endsWord, endsItem, endsLine, Option.some.injEq, htab, decide_false, Bool.or_false,
        Bool.or_eq_true, decide_eq_true_eq, hkeep] at hends
      exact hends.symm
    have htrue : startsSeparator (d :: d :: d :: ch :: cs₄) = true := by
      rcases hd with rfl | rfl <;> simpa [startsSeparator] using hjoint
    rw [htrue] at hmark
    cases hmark

theorem quotedBreaks_step {ch : Char} {n : ℕ} (hat : c.atSeparator = false)
    (hhead : c.rest.head? = some ch) (hspace : ch ≠ ' ') (htab : ch ≠ '\t') :
    quotedBreaks (n + 1) c =
      if isBreak ch then (do
        let b ← lineBreak
        let more ← quotedBreaks n
        return b ++ more : Scan (List Char)) c
      else .ok ([], c) := by
  have hget : (get : Scan Cursor) c = .ok (c, c) := rfl
  have htake : takeWhile (fun c => c = ' ' || c = '\t') c = .ok ([], c) :=
    takeWhile_run_nil (by simp [hhead, hspace, htab])
  rw [quotedBreaks, bind_of_ok hget, hat]
  simp only [Bool.false_eq_true, reduceIte]
  rw [bind_of_ok htake, bind_of_ok (peek_run _), hhead]
  dsimp only
  split <;> rfl

theorem lineBreak_separator {x : Char} {rest : List Char} (hx : isSeparator x = true)
    (h : c.rest = x :: rest) : lineBreak c = .ok ([x], c.skip 1) := by
  have hx' : (x = '\u2028' || x = '\u2029') = true := hx
  rw [lineBreak, bind_of_ok (peek_run _), h]
  simp only [List.head?_cons, hx', reduceIte]
  rw [bind_of_ok (skip_run _ _), pure_run]

theorem escapeChar_separator {x : Char} (hx : isSeparator x = true) :
    escapeChar false x = [x] ∧ isBreak x = true := by
  rw [isSeparator, Bool.or_eq_true, decide_eq_true_iff, decide_eq_true_iff] at hx
  rcases hx with rfl | rfl <;> exact ⟨rfl, rfl⟩

/-- **Line separators behind a line break are kept.** -/
theorem quotedBreaks_separators {cs rest : List Char} (hcs : ∀ x ∈ cs, keepsChar x = true)
    (hkeeps : keepsSeparators false cs = true) (hspace : cs.head? ≠ some ' ')
    (hmark : startsSeparator cs = false) {n : ℕ} (hn : cs.length < n)
    (h : c.rest = cs.flatMap (escapeChar false) ++ '"' :: rest) :
    quotedBreaks n c = .ok (cs.takeWhile isSeparator,
      c.skip (cs.takeWhile isSeparator).length) := by
  induction cs generalizing c n with
  | nil =>
    obtain ⟨n, rfl⟩ : ∃ m, n = m + 1 := ⟨n - 1, by omega⟩
    have hhead : c.rest.head? = some '"' := by rw [h]; rfl
    rw [quotedBreaks_step (atSeparator_eq_false hcs hmark h) hhead (by decide) (by decide),
      if_neg (by decide)]
    rfl
  | cons x cs ih =>
    obtain ⟨n, rfl⟩ : ∃ m, n = m + 1 := ⟨n - 1, by omega⟩
    have hat := atSeparator_eq_false hcs hmark h
    by_cases hx : isSeparator x = true
    · obtain ⟨hwritten, hbreak⟩ := escapeChar_separator hx
      have hrest : c.rest = x :: (cs.flatMap (escapeChar false) ++ '"' :: rest) := by
        rw [h, List.flatMap_cons, hwritten]
        rfl
      have hhead : c.rest.head? = some x := by rw [hrest]; rfl
      have hblank : x ≠ ' ' ∧ x ≠ '\t' := by
        constructor <;> (rintro rfl; exact absurd hx (by decide))
      rw [keepsSeparators, if_pos hx, Bool.and_eq_true, Bool.and_eq_true, Bool.and_eq_true] at hkeeps
      obtain ⟨⟨⟨-, hspace'⟩, hmark'⟩, hkeeps'⟩ := hkeeps
      have hmore := ih (c := c.skip 1) (List.forall_mem_cons.mp hcs).2 hkeeps'
        (by simpa using hspace') (by simpa using hmark') (n := n) (by simp at hn; omega)
        (c.skip_cons hrest)
      rw [quotedBreaks_step hat hhead hblank.1 hblank.2, if_pos hbreak,
        bind_of_ok (lineBreak_separator hx hrest), bind_of_ok hmore, pure_run,
        List.takeWhile_cons_of_pos hx, Cursor.skip_skip, List.length_cons, Nat.add_comm 1]
      rfl
    · obtain ⟨ch, hch, hcases⟩ := head?_escaped (x :: cs) rest
      rw [← h] at hch
      have hplain : ch ≠ ' ' ∧ ch ≠ '\t' ∧ isBreak ch = false := by
        rcases hcases with rfl | rfl | ⟨hlarge, cs', hcs', -⟩
        · decide
        · decide
        · obtain ⟨rfl, rfl⟩ := List.cons.inj hcs'
          refine ⟨by simpa using hspace, ?_, ?_⟩
          · rintro rfl
            exact absurd hlarge (by decide)
          · rw [isBreak_of_keepsChar (hcs x (by simp)) hlarge]
            simpa using hx
      rw [quotedBreaks_step hat hch hplain.1 hplain.2.1, if_neg (by simp [hplain.2.2]),
        List.takeWhile_cons_of_neg hx]
      rfl

theorem length_le_escaped (cs : List Char) :
    cs.length ≤ (cs.flatMap (escapeChar false)).length := by
  induction cs with
  | nil => exact le_rfl
  | cons x cs ih =>
    have hx : 1 ≤ (escapeChar false x).length := by
      rcases escapeChar_cases x with ⟨-, -, -, h⟩ | ⟨e, -, -, -, h⟩ | ⟨-, h⟩
      all_goals
        rw [h]
        simp [unitEscape]
    rw [List.flatMap_cons, List.length_append, List.length_cons]
    omega

/-- A line separator in a string is kept, with those behind it. -/
theorem quotedSpaces_separators {x : Char} {cs rest : List Char} (hx : isSeparator x = true)
    (hcs : ∀ x ∈ cs, keepsChar x = true) (hkeeps : keepsSeparators false cs = true)
    (hspace : cs.head? ≠ some ' ') (hmark : startsSeparator cs = false)
    (h : c.rest = x :: (cs.flatMap (escapeChar false) ++ '"' :: rest)) :
    quotedSpaces c = .ok (x :: cs.takeWhile isSeparator,
      c.skip ((cs.takeWhile isSeparator).length + 1)) := by
  have hbreak := (escapeChar_separator hx).2
  have hblank : x ≠ ' ' ∧ x ≠ '\t' := by
    constructor <;> (rintro rfl; exact absurd hx (by decide))
  have hfeed : ([x] != ['\n']) = true := by
    have hne : x ≠ '\n' := by
      rintro rfl
      exact absurd hx (by decide)
    simpa using hne
  have htake : takeWhile (fun c => c = ' ' || c = '\t') c = .ok ([], c) :=
    takeWhile_run_nil (by simp [h, hblank])
  have hget : (get : Scan Cursor) (c.skip 1) = .ok (c.skip 1, c.skip 1) := rfl
  have hrest : (c.skip 1).rest = cs.flatMap (escapeChar false) ++ '"' :: rest :=
    c.skip_cons h
  have hlength : cs.length < (c.skip 1).rest.length + 1 := by
    have := length_le_escaped cs
    rw [hrest, List.length_append]
    omega
  have hmore := quotedBreaks_separators (c := c.skip 1) hcs hkeeps hspace hmark hlength hrest
  rw [quotedSpaces, bind_of_ok htake, bind_of_ok (peek_run _), h]
  simp only [List.head?_cons, hbreak, reduceIte]
  rw [bind_of_ok (lineBreak_separator hx h), bind_of_ok hget, bind_of_ok hmore, hfeed]
  simp only [reduceIte]
  rw [pure_run, Cursor.skip_skip, Nat.add_comm 1]
  rfl

/-! ### Strings -/

theorem escapeChar_bare {x : Char} (hx : isBare x = true) : escapeChar false x = [x] := by
  rcases escapeChar_cases x with ⟨-, -, -, h⟩ | ⟨e, hbare, -⟩ | ⟨hsmall, -⟩
  · exact h
  · rw [hx] at hbare
    cases hbare
  · rw [isBare, Bool.and_eq_true, decide_eq_true_iff] at hx
    omega

/-- The end of a string is kept if the string is. -/
theorem keepsSeparators_append {cs tail : List Char} {b : Bool}
    (h : keepsSeparators b (cs ++ tail) = true) : ∃ b, keepsSeparators b tail = true := by
  induction cs generalizing b with
  | nil => exact ⟨b, h⟩
  | cons x cs ih =>
    rw [List.cons_append, keepsSeparators] at h
    split at h
    · exact ih (Bool.and_eq_true_iff.mp h).2
    · exact ih h

theorem keepsSeparators_spaces {k : ℕ} {cs : List Char} {b : Bool}
    (h : keepsSeparators b (List.replicate (k + 1) ' ' ++ cs) = true) :
    keepsSeparators true cs = true := by
  induction k generalizing b with
  | zero => exact h
  | succ k ih => exact @ih true h

/-- What follows the last of several spaces in a string that is kept does not end a word. -/
theorem exists_head_of_spaces {cs rest : List Char} (hcs : ∀ x ∈ cs, keepsChar x = true)
    (hkeeps : keepsSeparators true cs = true) (hspace : cs.head? ≠ some ' ') :
    ∃ ch tail, cs.flatMap (escapeChar false) ++ '"' :: rest = ch :: tail ∧
      endsWord (some ch) = false := by
  obtain ⟨ch, hch, hcases⟩ := head?_escaped cs rest
  obtain ⟨tail, htail⟩ := List.head?_eq_some_iff.mp hch
  refine ⟨ch, tail, htail, ?_⟩
  rcases hcases with rfl | rfl | ⟨hlarge, cs, rfl, -⟩
  · rfl
  · rfl
  · have hbreak := isBreak_of_keepsChar (hcs ch (by simp)) hlarge
    have hblank : ch ≠ ' ' := by simpa using hspace
    have htab : ch ≠ '\t' := by
      rintro rfl
      exact absurd hlarge (by decide)
    have hseparator : isSeparator ch = false := by
      rw [Bool.eq_false_iff]
      intro hsep
      rw [keepsSeparators, if_pos hsep] at hkeeps
      cases hkeeps
    simp [endsWord, endsItem, endsLine, hbreak, hseparator, hblank, htab]

/-- Characters that stand for themselves are written as they are. -/
theorem flatMap_escapeChar {cs : List Char} (h : ∀ x ∈ cs, escapeChar false x = [x]) :
    cs.flatMap (escapeChar false) = cs := by
  rw [List.flatMap_congr h, List.flatMap_singleton']

/-- What one iteration reads: the ordinary characters at the front, and what is found behind them. -/
def ReadsStep (c : Cursor) (plain found : List Char) : Prop :=
  ∀ {n : ℕ} {more : List Char} {c' : Cursor},
    quotedText true n (c.skip (plain.length + (found.flatMap (escapeChar false)).length)) =
      .ok (more, c') →
    quotedText true (n + 1) c = .ok (plain ++ found ++ more, c')

section ReadsStep

variable {plain cs rest : List Char} {x : Char}

theorem readsStep_of_written {written : List Char} (hwritten : escapeChar false x = written)
    (h : ∀ {n : ℕ} {more : List Char} {c' : Cursor},
      quotedText true n (c.skip (plain.length + written.length)) = .ok (more, c') →
      quotedText true (n + 1) c = .ok (plain ++ x :: more, c')) : ReadsStep c plain [x] := by
  intro n more c' hmore
  rw [List.flatMap_singleton, hwritten] at hmore
  rw [List.append_assoc]
  exact h hmore

/-- All spaces in a row are read at once. -/
theorem exists_readsStep_spaces (hplain : ∀ d ∈ plain, isOrdinary d = true)
    (hcs : ∀ x ∈ cs, keepsChar x = true) {b : Bool} (hkeeps : keepsSeparators b (' ' :: cs) = true)
    (h : c.rest = plain ++ ((' ' :: cs).flatMap (escapeChar false) ++ '"' :: rest)) :
    ∃ k tail, cs = List.replicate k ' ' ++ tail ∧
      ReadsStep c plain (List.replicate (k + 1) ' ') := by
  obtain ⟨k, tail, rfl, hhead⟩ : ∃ k tail, cs = List.replicate k ' ' ++ tail ∧
      tail.head? ≠ some ' ' := by
    refine ⟨(cs.takeWhile (· = ' ')).length, cs.dropWhile (· = ' '), ?_, fun hhead => ?_⟩
    · rw [← List.eq_replicate_of_mem fun x hx => by simpa using List.mem_takeWhile_imp hx,
        List.takeWhile_append_dropWhile]
    · have hnot := List.head?_dropWhile_not (· = ' ') cs
      rw [hhead] at hnot
      simp at hnot
  have hspaces : (List.replicate (k + 1) ' ').flatMap (escapeChar false) =
      List.replicate (k + 1) ' ' :=
    flatMap_escapeChar fun x hx => by
      rw [List.eq_of_mem_replicate hx]
      rfl
  have hrow : ' ' :: (List.replicate k ' ' ++ tail) = List.replicate (k + 1) ' ' ++ tail := rfl
  rw [hrow] at hkeeps h
  obtain ⟨ch, text, htext, hword⟩ := @exists_head_of_spaces tail rest
    (fun x hx => hcs x (List.mem_append_right _ hx)) (keepsSeparators_spaces hkeeps) hhead
  rw [List.flatMap_append, hspaces, List.append_assoc, htext] at h
  refine ⟨k, tail, rfl, fun hmore => ?_⟩
  have hread := quotedSpaces_spaces (c.skip_append h) hword
  rw [Cursor.skip_skip] at hread
  rw [hspaces, List.length_replicate] at hmore
  exact quotedText_spaces h hplain rfl hread hmore

/-- All line separators in a row are read at once. -/
theorem exists_readsStep_separators (hplain : ∀ d ∈ plain, isOrdinary d = true)
    (hx : isSeparator x = true) (hcs : ∀ x ∈ cs, keepsChar x = true) {b : Bool}
    (hkeeps : keepsSeparators b (x :: cs) = true)
    (h : c.rest = plain ++ ((x :: cs).flatMap (escapeChar false) ++ '"' :: rest)) :
    ∃ row tail, cs = row ++ tail ∧ ReadsStep c plain (x :: row) := by
  rw [keepsSeparators, if_pos hx, Bool.and_eq_true, Bool.and_eq_true, Bool.and_eq_true] at hkeeps
  obtain ⟨⟨⟨-, hhead⟩, hmark⟩, hkeeps⟩ := hkeeps
  obtain ⟨hwritten, hbreak⟩ := escapeChar_separator hx
  rw [List.flatMap_cons, hwritten, List.append_assoc] at h
  have hread := quotedSpaces_separators hx hcs hkeeps (by simpa using hhead) (by simpa using hmark)
    (c.skip_append h)
  have hrow : (x :: cs.takeWhile isSeparator).flatMap (escapeChar false) =
      x :: cs.takeWhile isSeparator := by
    refine flatMap_escapeChar (List.forall_mem_cons.mpr ⟨hwritten, fun y hy => ?_⟩)
    exact (escapeChar_separator (List.mem_takeWhile_imp hy)).1
  refine ⟨cs.takeWhile isSeparator, cs.dropWhile isSeparator,
    List.takeWhile_append_dropWhile.symm, fun hmore => ?_⟩
  rw [hrow, List.length_cons] at hmore
  rw [Cursor.skip_skip] at hread
  exact quotedText_spaces h hplain (by simp [endsWord, endsItem, endsLine, hbreak]) hread hmore

/-- **A string is read step by step**: behind the bare characters, the next character is read together
with those that are read at once with it. -/
theorem exists_readsStep (hplain : ∀ d ∈ plain, isOrdinary d = true) (hbare : isBare x = false)
    (hall : ∀ y ∈ x :: cs, keepsChar y = true) {b : Bool}
    (hkeeps : keepsSeparators b (x :: cs) = true)
    (h : c.rest = plain ++ ((x :: cs).flatMap (escapeChar false) ++ '"' :: rest)) :
    ∃ found tail, x :: cs = found ++ tail ∧ found ≠ [] ∧ ReadsStep c plain found := by
  obtain ⟨hx, hcs⟩ := List.forall_mem_cons.mp hall
  have hwritten : c.rest =
      plain ++ (escapeChar false x ++ (cs.flatMap (escapeChar false) ++ '"' :: rest)) := by
    rw [h, List.flatMap_cons, List.append_assoc]
  rcases escapeChar_cases x with ⟨hquote, hback, hlarge, hesc⟩ | ⟨e, -, -, he, hesc⟩ | ⟨hsmall, hesc⟩
  · by_cases hapostrophe : x = '\''
    · subst hapostrophe
      rw [hesc] at hwritten
      exact ⟨['\''], cs, rfl, List.cons_ne_nil _ _,
        readsStep_of_written hesc (quotedText_apostrophe hwritten hplain)⟩
    by_cases hspace : x = ' '
    · subst hspace
      obtain ⟨k, tail, rfl, hstep⟩ := exists_readsStep_spaces hplain hcs hkeeps h
      exact ⟨_, tail, rfl, List.cons_ne_nil _ _, hstep⟩
    have hsep : isSeparator x = true := by
      rw [← isBreak_of_keepsChar hx hlarge]
      have htab : x ≠ '\t' := by
        rintro rfl
        exact absurd hlarge (by decide)
      simpa [isBare, isOrdinary, hlarge, hquote, hback, hapostrophe, endsWord, endsItem,
        endsLine, hspace, htab] using hbare
    obtain ⟨row, tail, rfl, hstep⟩ := exists_readsStep_separators hplain hsep hcs hkeeps h
    exact ⟨x :: row, tail, rfl, List.cons_ne_nil _ _, hstep⟩
  · rw [hesc] at hwritten
    exact ⟨[x], cs, rfl, List.cons_ne_nil _ _,
      readsStep_of_written hesc (quotedText_escape hwritten hplain he)⟩
  · rw [hesc] at hwritten
    exact ⟨[x], cs, rfl, List.cons_ne_nil _ _,
      readsStep_of_written hesc (quotedText_unitEscape hsmall hwritten hplain)⟩

end ReadsStep

/-- **A JSON string is read as the string.** -/
theorem quotedText_string {cs rest : List Char} (hall : ∀ x ∈ cs, keepsChar x = true) {b : Bool}
    (hkept : keepsSeparators b cs = true) {n : ℕ} (hn : cs.length < n)
    (h : c.rest = cs.flatMap (escapeChar false) ++ '"' :: rest) :
    quotedText true n c = .ok (cs, c.skip ((cs.flatMap (escapeChar false)).length + 1)) := by
  -- The induction is on the number of characters: an iteration reads the bare ones at the front
  -- together with what is behind them.
  induction hlen : cs.length using Nat.strongRecOn generalizing cs b c n with
  | ind len ih =>
    subst hlen
    obtain ⟨n, rfl⟩ : ∃ m, n = m + 1 := ⟨n - 1, by omega⟩
    obtain ⟨plain, tail, rfl, hplain, htail⟩ : ∃ plain tail, cs = plain ++ tail ∧
        (∀ x ∈ plain, isBare x = true) ∧ ∀ x ∈ tail.head?, isBare x = false := by
      refine ⟨cs.takeWhile isBare, cs.dropWhile isBare, List.takeWhile_append_dropWhile.symm,
        fun x hx => List.mem_takeWhile_imp hx, fun x hx => ?_⟩
      have hhead := List.head?_dropWhile_not isBare cs
      rwa [Option.mem_def.mp hx] at hhead
    obtain ⟨b, hkeeps⟩ := keepsSeparators_append hkept
    have hordinary : ∀ x ∈ plain, isOrdinary x = true := fun x hx =>
      (Bool.and_eq_true_iff.mp (hplain x hx)).1
    rw [List.flatMap_append, flatMap_escapeChar fun x hx => escapeChar_bare (hplain x hx),
      List.append_assoc] at h
    rw [List.flatMap_append, flatMap_escapeChar fun x hx => escapeChar_bare (hplain x hx)]
    cases tail with
    | nil =>
      rw [quotedText_close h hordinary]
      simp
    | cons x cs =>
      obtain ⟨found, tail, hsplit, hne, hstep⟩ := exists_readsStep hordinary (htail x rfl)
        (fun y hy => hall y (List.mem_append_right _ hy)) hkeeps h
      rw [hsplit] at h hkeeps hn ih hall ⊢
      obtain ⟨b, hkeeps⟩ := keepsSeparators_append hkeeps
      have hpos := List.length_pos_of_ne_nil hne
      simp only [List.length_append] at hn ih
      have hrest : (c.skip (plain.length + (found.flatMap (escapeChar false)).length)).rest =
          tail.flatMap (escapeChar false) ++ '"' :: rest := by
        rw [← Cursor.skip_skip, Cursor.skip_append]
        rw [c.skip_append h, List.flatMap_append, List.append_assoc]
      have hmore := ih tail.length (by omega)
        (fun y hy => hall y (List.mem_append_right _ (List.mem_append_right _ hy))) hkeeps
        (n := n) (by omega) hrest rfl
      rw [hstep hmore, Cursor.skip_skip, List.append_assoc, List.flatMap_append]
      simp only [List.length_append, Nat.add_assoc]

/-- **Whether a string is read in YAML as it is written in JSON.** -/
def keepsText (s : String) : Bool := s.toList.all keepsChar && keepsSeparators false s.toList

/-- A quoted string is read up to its closing quote. -/
theorem quotedScalar_quote {s : String} (hs : keepsText s = true) {rest : List Char}
    (h : c.rest = quote false s ++ rest) :
    quotedScalar true c = .ok (s, c.skip (quote false s).length) := by
  rw [keepsText, Bool.and_eq_true, List.all_eq_true] at hs
  have hget : (get : Scan Cursor) (c.skip 1) = .ok (c.skip 1, c.skip 1) := rfl
  have hrest : (c.skip 1).rest = s.toList.flatMap (escapeChar false) ++ '"' :: rest := by
    rw [Cursor.skip_rest, h, quote]
    simp
  have hlength : s.toList.length < 2 * (c.skip 1).rest.length + 2 := by
    have := length_le_escaped s.toList
    rw [hrest, List.length_append]
    omega
  rw [quotedScalar, bind_of_ok (skip_run 1 c), bind_of_ok hget,
    bind_of_ok (quotedText_string hs.1 hs.2 hlength hrest), pure_run, Cursor.skip_skip,
    String.ofList_toList, quote]
  congr 3
  simp only [List.length_cons, List.length_append, List.length_nil]
  omega

/-- What is written for a string: characters of it that are no control characters, and visible ASCII
characters. -/
theorem mem_quote {s : String} {ch : Char} (h : ch ∈ quote false s) :
    ch ∈ s.toList ∧ 32 ≤ ch.toNat ∨ isVisible ch = true := by
  have hunit : ∀ k < 32, (unitEscape k).all isVisible = true := by decide
  rw [quote, List.mem_cons, List.mem_append, List.mem_singleton, List.mem_flatMap] at h
  rcases h with rfl | ⟨x, hx, hch⟩ | rfl
  · exact .inr rfl
  · rcases escapeChar_cases x with ⟨-, -, hlarge, hesc⟩ | ⟨e, -, he, -, hesc⟩ | ⟨hsmall, hesc⟩
    · rw [hesc, List.mem_singleton] at hch
      exact .inl (hch ▸ ⟨hx, hlarge⟩)
    · rw [hesc, List.mem_cons, List.mem_singleton] at hch
      rcases hch with rfl | rfl
      · exact .inr rfl
      · exact .inr he
    · exact .inr (List.all_eq_true.mp (hunit _ hsmall) ch (hesc ▸ hch))
  · exact .inr rfl

end Scan

end WizardLogic.Yaml
