import Mathlib
import WizardLogic.Proofs.Yaml.Quoted

/-!
# Words read as YAML

Numbers and constants of JSON are plain scalars of YAML. A plain scalar goes on behind white space, so
the scanner looks at what is behind a word: it reads the white space with the word and finds a mark
there that closes the item (`Scan.plainScalar_word`).
-/

namespace WizardLogic.Yaml.Scan

open Stateful

variable {c : Cursor}

/-- A character of a number or of a constant. -/
def isBareWordChar (ch : Char) : Bool := ch.isAlphanum || ch = '-' || ch = '+' || ch = '.'

/-- A mark that follows an item in brackets. -/
def closesItem (ch : Char) : Bool := ch = ',' || ch = ']' || ch = '\x7d'

theorem endsPlain_of_isBareWordChar {ch : Char} (h : isBareWordChar ch = true)
    (following : Option Char) : endsPlain true ch following = false := by
  have hne : ∀ d : Char, isBareWordChar d = false → ch ≠ d := by
    rintro d hd rfl
    rw [h] at hd
    cases hd
  simp [endsPlain, endsWord, endsItem, endsLine, isBreak, hne ' ' rfl, hne '\t' rfl, hne '\n' rfl,
    hne ',' rfl, hne '?' rfl, hne '[' rfl, hne ']' rfl, hne '\x7b' rfl, hne '\x7d' rfl, hne ':' rfl,
    hne '\u0085' (by decide), hne '\u2028' (by decide), hne '\u2029' (by decide)]

theorem closesItem_iff {ch : Char} : closesItem ch = true ↔ ch = ',' ∨ ch = ']' ∨ ch = '\x7d' := by
  simp [closesItem, or_assoc]

theorem endsPlain_of_closesItem {ch : Char} (h : closesItem ch = true) (following : Option Char) :
    endsPlain true ch following = true := by
  rcases closesItem_iff.mp h with rfl | rfl | rfl <;> simp [endsPlain]

theorem plainLength_append {word rest : List Char} (hword : ∀ ch ∈ word, isBareWordChar ch = true)
    (hrest : ∀ ch tail, rest = ch :: tail → endsPlain true ch tail.head? = true) :
    plainLength true (word ++ rest) = word.length := by
  induction word with
  | nil =>
    cases rest with
    | nil => rfl
    | cons ch tail => rw [List.nil_append, plainLength, if_pos (hrest ch tail rfl)]; rfl
  | cons ch word ih =>
    obtain ⟨hch, hword⟩ := List.forall_mem_cons.mp hword
    rw [List.cons_append, plainLength, endsPlain_of_isBareWordChar hch, ih hword]
    rfl

theorem atSeparator_of_ne {ch : Char} {rest : List Char} (h : c.rest = ch :: rest)
    (hdash : ch ≠ '-') (hpoint : ch ≠ '.') : c.atSeparator = false := by
  simp [Cursor.atSeparator, h, hdash, hpoint]

/-- Spaces at the start of a line are dropped. -/
theorem plainBreaks_spaces {k n : ℕ} {ch : Char} {rest : List Char} (hn : k < n)
    (h : c.rest = List.replicate k ' ' ++ ch :: rest) (hch : closesItem ch = true) :
    plainBreaks n c = .ok (some [], c.skip k) := by
  induction k generalizing n c with
  | zero =>
    obtain ⟨n, rfl⟩ : ∃ m, n = m + 1 := ⟨n - 1, by omega⟩
    have hplain : ch ≠ ' ' ∧ isBreak ch = false := by
      rcases closesItem_iff.mp hch with rfl | rfl | rfl <;> decide
    rw [plainBreaks, bind_of_ok (peek_run c), h]
    simp only [List.replicate_zero, List.nil_append, List.head?_cons, hplain, reduceIte,
      Bool.false_eq_true]
    rfl
  | succ k ih =>
    obtain ⟨n, rfl⟩ : ∃ m, n = m + 1 := ⟨n - 1, by omega⟩
    have hrest : (c.skip 1).rest = List.replicate k ' ' ++ ch :: rest := by
      rw [Cursor.skip_rest, h]
      rfl
    rw [plainBreaks, bind_of_ok (peek_run c), h]
    simp only [List.replicate_succ, List.cons_append, List.head?_cons, reduceIte]
    rw [bind_of_ok (skip_run 1 c), ih (by omega) hrest, Cursor.skip_skip, Nat.add_comm 1]

/-- The white space between an item in brackets and the mark behind it. -/
inductive IsGap : List Char → Prop
  | none : IsGap []
  | line (k : ℕ) : IsGap ('\n' :: List.replicate k ' ')

/-- Behind a word, a line break counts as a space. -/
theorem plainSpaces_gap {space rest : List Char} {ch : Char} (hspace : IsGap space)
    (h : c.rest = space ++ ch :: rest) (hch : closesItem ch = true) :
    plainSpaces c = .ok ((if space.isEmpty then [] else [' '], !space.isEmpty),
      c.skip space.length) := by
  have hmark : ch ≠ ' ' ∧ isBreak ch = false ∧ ch ≠ '-' ∧ ch ≠ '.' := by
    rcases closesItem_iff.mp hch with rfl | rfl | rfl <;> decide
  cases hspace with
  | none =>
    have htake : takeWhile (· = ' ') c = .ok ([], c) :=
      takeWhile_run_nil (by simp [h, hmark])
    rw [plainSpaces, bind_of_ok htake, bind_of_ok (peek_run c), h]
    simp only [List.nil_append, List.head?_cons, hmark, Bool.false_eq_true, reduceIte]
    rfl
  | line k =>
    have htake : takeWhile (· = ' ') c = .ok ([], c) :=
      takeWhile_run_nil (by simp [h])
    have hrest : (c.skip 1).rest = List.replicate k ' ' ++ ch :: rest := by
      rw [Cursor.skip_rest, h]
      rfl
    have hbreak : lineBreak c = .ok (['\n'], c.skip 1) := by
      rw [lineBreak, bind_of_ok (peek_run c), h]
      rfl
    have hget : (get : Scan Cursor) (c.skip 1) = .ok (c.skip 1, c.skip 1) := rfl
    have hat : (c.skip 1).atSeparator = false := by
      cases k with
      | zero => exact atSeparator_of_ne hrest hmark.2.2.1 hmark.2.2.2
      | succ k => exact atSeparator_of_ne hrest (by decide) (by decide)
    have hmore := plainBreaks_spaces (c := c.skip 1) (n := (c.skip 1).rest.length + 1)
      (by rw [hrest]; simp) hrest hch
    have hfeed : isBreak '\n' = true := rfl
    rw [plainSpaces, bind_of_ok htake, bind_of_ok (peek_run c), h]
    simp only [List.cons_append, List.head?_cons, hfeed, reduceIte]
    rw [bind_of_ok hbreak, bind_of_ok hget, hat]
    simp only [Bool.false_eq_true, reduceIte]
    rw [bind_of_ok hget, bind_of_ok hmore, Cursor.skip_skip]
    simp only [List.length_cons, List.length_replicate, Nat.add_comm 1]
    rfl

/-- **A word in brackets is read up to the mark behind it**, and with it the white space in front of
the mark. -/
theorem plainScalar_word {indent : ℤ} {word space rest : List Char} {ch : Char}
    (hne : word ≠ []) (hword : ∀ ch ∈ word, isBareWordChar ch = true) (hspace : IsGap space)
    (h : c.rest = word ++ (space ++ ch :: rest)) (hch : closesItem ch = true) :
    plainScalar true indent c = .ok ((String.ofList word, !space.isEmpty),
      c.skip (word.length + space.length)) := by
  have hget : ∀ c : Cursor, (get : Scan Cursor) c = .ok (c, c) := fun _ => rfl
  have hends : ∀ d tail, space ++ ch :: rest = d :: tail → endsPlain true d tail.head? = true := by
    intro d tail heq
    cases hspace with
    | none =>
      obtain ⟨rfl, -⟩ := List.cons.inj heq
      exact endsPlain_of_closesItem hch _
    | line k =>
      obtain ⟨rfl, -⟩ := List.cons.inj heq
      rfl
  have hlength : plainLength true c.rest = word.length := by
    rw [h, plainLength_append hword hends]
  have hhash : c.rest.head? ≠ some '#' := by
    cases word with
    | nil => exact absurd rfl hne
    | cons d word =>
      rw [h, List.cons_append, List.head?_cons]
      rintro heq
      obtain rfl := Option.some.inj heq
      exact absurd (hword '#' (by simp)) (by decide)
  have hpos : word.length ≠ 0 := by simpa using hne
  have htake : take word.length c = .ok (word, c.skip word.length) := by
    change Except.ok (c.rest.take word.length, c.skip word.length) = _
    rw [h, List.take_left]
  have hrest := c.skip_append h
  have hgap := plainSpaces_gap hspace hrest hch
  obtain ⟨n, hn⟩ : ∃ n, c.rest.length + 1 = n + 2 := by
    refine ⟨c.rest.length - 1, ?_⟩
    have : 0 < c.rest.length := by rw [h]; simp
    omega
  have hmark : ((c.skip word.length).skip space.length).rest = ch :: rest :=
    (c.skip word.length).skip_append hrest
  have hwords : plainWords true (indent + 1) (n + 2) [] false c =
      .ok ((word, !space.isEmpty), (c.skip word.length).skip space.length) := by
    rw [plainWords, bind_of_ok (hget c)]
    simp only [hlength, hhash, hpos, decide_false, Bool.or_self, Bool.false_eq_true, reduceIte]
    rw [bind_of_ok htake, bind_of_ok hgap]
    simp only []
    rw [bind_of_ok (hget _), bind_of_ok (peek_run _), hmark]
    cases hspace with
    | none => rfl
    | line k =>
      have hclose : ch ≠ '#' := by rcases closesItem_iff.mp hch with rfl | rfl | rfl <;> decide
      have hend : plainLength true (ch :: rest) = 0 := by
        rw [plainLength, endsPlain_of_closesItem hch]
        rfl
      -- The line break counts as a space, behind which no further word begins.
      have hmore : plainWords true (indent + 1) (n + 1) [' '] true
          ((c.skip word.length).skip ('\n' :: List.replicate k ' ').length) =
          .ok (([], true), (c.skip word.length).skip ('\n' :: List.replicate k ' ').length) := by
        rw [plainWords, bind_of_ok (hget _), hmark]
        simp only [hend, decide_true, Bool.or_true, reduceIte]
        rfl
      simp only [List.isEmpty_cons, Bool.false_eq_true, reduceIte, List.head?_cons,
        Option.some.injEq, hclose, decide_false, Bool.or_self, Bool.not_true, Bool.false_and,
        Bool.not_false]
      rw [bind_of_ok hmore]
      simp only [List.nil_append, List.append_nil]
      rfl
  rw [plainScalar, bind_of_ok (hget c), hn, bind_of_ok hwords, ← Cursor.skip_skip]
  rfl

end WizardLogic.Yaml.Scan
