import Mathlib
import WizardLogic.Engine.Action
import WizardLogic.Json.Printer
import WizardLogic.Proofs.Number.Notation
import WizardLogic.Proofs.Value.Sameness

/-!
# Reading what is written

JSON is read back as what was written, whatever the layout, and whether characters beyond ASCII are
escaped or not (`Json.read?_print_of_hasTextKeys`): a string gets back every character that had to be
escaped, a number is the same number and of the same kind, and an object keeps the order of its keys.
A character beyond the first plane is escaped as two surrogates, which are one character again when
they are read (`Json.joinUnits_charUnits`).

Two things bound the result. An integer of more than `maxDigits` digits is not read, and objects whose
keys are not distinct texts are not read as such (`Value.HasTextKeys`). JSON values have such keys
(`Json.read?_print`).

A value is written in front of something else, and that is how reading it is stated
(`Json.readValue_write`): it leaves what it does not need, if that cannot be taken for the rest of a
number.
-/

namespace WizardLogic

namespace Json

/-! ### Code units -/

/-- No character is a surrogate. -/
theorem toNat_not_surrogate (c : Char) : ¬(0xd800 ≤ c.toNat ∧ c.toNat < 0xe000) := by
  have hvalid : c.toNat < 0xd800 ∨ 0xdfff < c.toNat ∧ c.toNat < 0x110000 := c.valid
  omega

/-- The code units that a character is written as: the character, or two surrogates where it is
beyond the first plane and is escaped. -/
def charUnits (ascii : Bool) (c : Char) : List ℕ :=
  if ascii = true ∧ 0x10000 ≤ c.toNat then
    [0xd800 + (c.toNat - 0x10000) / 0x400, 0xdc00 + (c.toNat - 0x10000) % 0x400]
  else [c.toNat]

/-- What is no surrogate is a character of its own, whatever follows. -/
theorem joinUnits_cons {n : ℕ} (hn : ¬(0xd800 ≤ n ∧ n < 0xe000)) (units : List ℕ) :
    joinUnits (n :: units) = Char.ofNat n :: joinUnits units := by
  cases units with
  | nil => simp only [joinUnits, if_neg hn]
  | cons m units =>
    have hhigh : ¬(0xd800 ≤ n ∧ n < 0xdc00) := by omega
    have hlow : ¬(0xdc00 ≤ n ∧ n < 0xe000) := by omega
    rw [joinUnits, if_neg hhigh, if_neg hlow]

/-- A high surrogate and a low one are the character that they were made of. -/
theorem joinUnits_pair {n : ℕ} (hlarge : 0x10000 ≤ n) (hsmall : n < 0x110000) (units : List ℕ) :
    joinUnits ((0xd800 + (n - 0x10000) / 0x400) :: (0xdc00 + (n - 0x10000) % 0x400) :: units) =
      Char.ofNat n :: joinUnits units := by
  have hhigh : 0xd800 ≤ 0xd800 + (n - 0x10000) / 0x400 ∧
      0xd800 + (n - 0x10000) / 0x400 < 0xdc00 := by omega
  have hlow : 0xdc00 ≤ 0xdc00 + (n - 0x10000) % 0x400 ∧
      0xdc00 + (n - 0x10000) % 0x400 < 0xe000 := by omega
  have hsum : 0x10000 + (0xd800 + (n - 0x10000) / 0x400 - 0xd800) * 0x400 +
      (0xdc00 + (n - 0x10000) % 0x400 - 0xdc00) = n := by omega
  rw [joinUnits, if_pos hhigh, if_pos hlow, hsum]

/-- **The code units of characters are those characters**, surrogates or not. -/
theorem joinUnits_charUnits (ascii : Bool) (cs : List Char) :
    joinUnits (cs.flatMap (charUnits ascii)) = cs := by
  induction cs with
  | nil => rfl
  | cons c cs ih =>
    have hvalid : c.toNat < 0xd800 ∨ 0xdfff < c.toNat ∧ c.toNat < 0x110000 := c.valid
    rw [List.flatMap_cons, charUnits]
    split
    · next hlarge =>
      rw [List.cons_append, List.cons_append, List.nil_append, joinUnits_pair hlarge.2 (by omega),
        Char.ofNat_toNat, ih]
    · rw [List.cons_append, List.nil_append, joinUnits_cons (toNat_not_surrogate c),
        Char.ofNat_toNat, ih]

/-! ### Strings -/

theorem hexValue?_hexDigit : ∀ n < 16, hexValue? (hexDigit n) = some n := by
  decide

/-- The four digits of an escape are its number. -/
theorem hex4?_hexDigit {n : ℕ} (hn : n < 0x10000) :
    hex4? (hexDigit (n / 4096 % 16)) (hexDigit (n / 256 % 16)) (hexDigit (n / 16 % 16))
      (hexDigit (n % 16)) = some n := by
  have hsum : ((n / 4096 % 16 * 16 + n / 256 % 16) * 16 + n / 16 % 16) * 16 + n % 16 = n := by
    omega
  have hdigit : ∀ k, hexValue? (hexDigit (k % 16)) = some (k % 16) :=
    fun k => hexValue?_hexDigit _ (Nat.mod_lt _ (by decide))
  rw [hex4?]
  simp only [hdigit, Option.bind_eq_bind, Option.bind_some, hsum]
  rfl

/-- An escape with four digits is read as its number. -/
theorem readUnits_unitEscape {n : ℕ} (hn : n < 0x10000) (rest : List Char) :
    readUnits (unitEscape n ++ rest) =
      (readUnits rest).map fun (units, rest) => (n :: units, rest) := by
  rw [unitEscape, List.cons_append, List.cons_append, List.cons_append, List.cons_append,
    List.cons_append, List.cons_append, List.nil_append, readUnits, hex4?_hexDigit hn]
  cases readUnits rest <;> rfl

/-- A character that is written as it stands is read as it stands. -/
theorem readUnits_plain {c : Char} {rest : List Char} (hquote : c ≠ '"') (hback : c ≠ '\\')
    (hcontrol : ¬c.toNat < 32) :
    readUnits (c :: rest) = (readUnits rest).map fun (units, rest) => (c.toNat :: units, rest) := by
  rw [readUnits]
  · rw [if_neg (by simp [hcontrol, hback])]
    cases readUnits rest <;> rfl
  · exact hquote
  all_goals simp [hback]

/-- A character behind a backslash is read as what it stands for. -/
theorem readUnits_shortEscape {e c : Char} {rest : List Char} (h : shortEscape? e = some c) :
    readUnits ('\\' :: e :: rest) =
      (readUnits rest).map fun (units, rest) => (c.toNat :: units, rest) := by
  have hu : e ≠ 'u' := by
    rintro rfl
    cases h
  rw [readUnits]
  · rw [h]
    cases readUnits rest <;> rfl
  · intros
    simp_all

/-- The letters of the short escapes, with the characters that are written by them. -/
def shortEscapes : List (Char × Char) :=
  [('"', '"'), ('\\', '\\'), ('n', '\n'), ('r', '\r'), ('t', '\t'), ('f', '\x0c'), ('b', '\x08')]

/-- **How a character is written in a string**: by a short escape, as it is, by its number, or by the
numbers of two surrogates. -/
inductive EscapedAs (ascii : Bool) (c : Char) : List Char → Prop
  | short {e : Char} : (e, c) ∈ shortEscapes → EscapedAs ascii c ['\\', e]
  | plain : c ≠ '"' → c ≠ '\\' → 32 ≤ c.toNat → (ascii = true → c.toNat < 127) →
      EscapedAs ascii c [c]
  | unit : c.toNat < 32 ∨ ascii = true → c.toNat < 0x10000 →
      EscapedAs ascii c (unitEscape c.toNat)
  | pair : ascii = true → 0x10000 ≤ c.toNat →
      EscapedAs ascii c (unitEscape (0xd800 + (c.toNat - 0x10000) / 0x400) ++
        unitEscape (0xdc00 + (c.toNat - 0x10000) % 0x400))

theorem escapedAs_escapeChar (ascii : Bool) (c : Char) :
    EscapedAs ascii c (escapeChar ascii c) := by
  by_cases hshort : ∃ e, (e, c) ∈ shortEscapes
  · obtain ⟨e, he⟩ := hshort
    have hescape : ∀ p ∈ shortEscapes, escapeChar ascii p.2 = ['\\', p.1] := by
      cases ascii <;> decide
    rw [hescape _ he]
    exact .short he
  · have hother : ∀ p ∈ shortEscapes, c ≠ p.2 := by
      rintro ⟨e, d⟩ he rfl
      exact hshort ⟨e, he⟩
    simp only [shortEscapes, List.forall_mem_cons] at hother
    obtain ⟨hquote, hback, hn, hr, ht, hf, hb, -⟩ := hother
    have hfeed : c.toNat ≠ 12 := fun h => hf (Char.toNat_inj.mp h)
    have hbackspace : c.toNat ≠ 8 := fun h => hb (Char.toNat_inj.mp h)
    unfold escapeChar
    dsimp only
    rw [if_neg hquote, if_neg hback, if_neg hn, if_neg hr, if_neg ht, if_neg hfeed, if_neg hbackspace]
    split
    · next hsmall => exact .unit (.inl hsmall) (by omega)
    · next hlarge =>
      cases ascii with
      | false => exact .plain hquote hback (by omega) fun h => absurd h Bool.false_ne_true
      | true =>
        rw [Bool.not_true, Bool.false_or]
        split
        · next hplain => exact .plain hquote hback (by omega) fun _ => of_decide_eq_true hplain
        · split
          · next hunit => exact .unit (.inr rfl) hunit
          · next hpair => exact .pair rfl (by omega)

/-- **A character is read as the code units it was written as**, with an escape or without. -/
theorem readUnits_escapeChar (ascii : Bool) (c : Char) (rest : List Char) :
    readUnits (escapeChar ascii c ++ rest) =
      (readUnits rest).map fun (units, rest) => (charUnits ascii c ++ units, rest) := by
  have hvalid : c.toNat < 0xd800 ∨ 0xdfff < c.toNat ∧ c.toNat < 0x110000 := c.valid
  have hone : c.toNat < 0x10000 → charUnits ascii c = [c.toNat] := fun h => if_neg (by omega)
  have hescaped := escapedAs_escapeChar ascii c
  generalize escapeChar ascii c = cs at hescaped
  cases hescaped with
  | short he =>
    have hread : ∀ p ∈ shortEscapes, shortEscape? p.1 = some p.2 ∧ p.2.toNat < 0x10000 := by decide
    obtain ⟨hshort, hsmall⟩ := hread _ he
    rw [hone hsmall]
    exact readUnits_shortEscape hshort
  | plain hquote hback hlarge hascii =>
    have hplain : charUnits ascii c = [c.toNat] := by
      refine if_neg fun hpair => ?_
      have hsmall := hascii hpair.1
      omega
    rw [hplain]
    exact readUnits_plain hquote hback (by omega)
  | unit _ hsmall =>
    rw [hone hsmall]
    exact readUnits_unitEscape hsmall rest
  -- One surrogate is read after the other.
  | pair hascii hlarge =>
    rw [charUnits, if_pos ⟨hascii, hlarge⟩, List.append_assoc, readUnits_unitEscape (by omega),
      readUnits_unitEscape (by omega), Option.map_map]
    rfl

/-- **A string is read as it was written.** -/
theorem readString_quote (ascii : Bool) (s : String) (rest : List Char) :
    ∃ cs, quote ascii s ++ rest = '"' :: cs ∧ readString cs = some (s, rest) := by
  refine ⟨s.toList.flatMap (escapeChar ascii) ++ '"' :: rest, by simp [quote], ?_⟩
  have hunits : ∀ cs : List Char, readUnits (cs.flatMap (escapeChar ascii) ++ '"' :: rest) =
      some (cs.flatMap (charUnits ascii), rest) := by
    intro cs
    induction cs with
    | nil => rw [List.flatMap_nil, List.nil_append, readUnits]; rfl
    | cons c cs ih =>
      rw [List.flatMap_cons, List.append_assoc, readUnits_escapeChar, ih]
      rfl
  rw [readString, hunits, Option.map_some]
  simp only [joinUnits_charUnits, String.ofList_toList]

/-! ### Layouts -/

/-- **A layout that JSON allows**: commas and colons stand between the parts, with nothing but white
space around them. -/
structure Style.IsPlain (st : Style) : Prop where
  itemSep : ∃ space, st.itemSep = ',' :: space ∧ ∀ c ∈ space, isSpace c = true
  keySep : ∃ space, st.keySep = ':' :: space ∧ ∀ c ∈ space, isSpace c = true
  indent : ∀ step ∈ st.indent, ∀ c ∈ step, isSpace c = true

theorem Style.line_isPlain : Style.line.IsPlain :=
  ⟨⟨[' '], rfl, by simp [isSpace]⟩, ⟨[' '], rfl, by simp [isSpace]⟩, by simp [Style.line]⟩

theorem Style.asciiLine_isPlain : Style.asciiLine.IsPlain :=
  ⟨⟨[' '], rfl, by simp [isSpace]⟩, ⟨[' '], rfl, by simp [isSpace]⟩, by simp [Style.asciiLine]⟩

theorem Style.indented_isPlain : Style.indented.IsPlain :=
  ⟨⟨[], rfl, by simp⟩, ⟨[' '], rfl, by simp [isSpace]⟩, by simp [Style.indented, isSpace]⟩

variable {st : Style}

/-- Line breaks and indentations are white space. -/
theorem Style.IsPlain.isSpace_lineBreak (hst : st.IsPlain) (depth : ℕ) :
    ∀ c ∈ st.lineBreak depth, isSpace c = true := by
  intro c hc
  rw [Style.lineBreak] at hc
  cases hindent : st.indent with
  | none =>
    rw [hindent] at hc
    cases hc
  | some step =>
    rw [hindent] at hc
    rcases List.mem_cons.mp hc with rfl | hc
    · rfl
    · obtain ⟨l, hl, hcl⟩ := List.mem_flatten.mp hc
      rw [List.eq_of_mem_replicate hl] at hcl
      exact hst.indent step hindent c hcl

/-- White space is skipped up to what does not begin with it. -/
theorem skipSpace_append {space rest : List Char} (hspace : ∀ c ∈ space, isSpace c = true)
    (hrest : ∀ c ∈ rest.head?, isSpace c = false) : skipSpace (space ++ rest) = rest := by
  rw [skipSpace, List.dropWhile_append_of_pos hspace]
  cases rest with
  | nil => rfl
  | cons c rest => rw [List.dropWhile_cons, hrest c rfl, if_neg Bool.false_ne_true]

theorem skipSpace_of_head? {rest : List Char} (hrest : ∀ c ∈ rest.head?, isSpace c = false) :
    skipSpace rest = rest := by
  have h := skipSpace_append (List.forall_mem_nil _) hrest
  exact h

/-- Behind the comma between two items, all is skipped up to the next item. -/
theorem Style.IsPlain.exists_itemSep (hst : st.IsPlain) : ∃ space, st.itemSep = ',' :: space ∧
    ∀ depth rest, (∀ c ∈ rest.head?, isSpace c = false) →
      skipSpace (space ++ (st.lineBreak depth ++ rest)) = rest := by
  obtain ⟨space, hsep, hspace⟩ := hst.itemSep
  refine ⟨space, hsep, fun depth rest hrest => ?_⟩
  have hbreak := hst.isSpace_lineBreak depth
  rw [← List.append_assoc]
  exact skipSpace_append
    (fun c hc => (List.mem_append.mp hc).elim (hspace c) (hbreak c)) hrest

/-- Behind the colon between a key and its value, all is skipped up to the value. -/
theorem Style.IsPlain.exists_keySep (hst : st.IsPlain) : ∃ space, st.keySep = ':' :: space ∧
    ∀ rest, (∀ c ∈ rest.head?, isSpace c = false) → skipSpace (space ++ rest) = rest := by
  obtain ⟨space, hsep, hspace⟩ := hst.keySep
  exact ⟨space, hsep, fun rest hrest => skipSpace_append hspace hrest⟩

/-! ### Numbers -/

/-- A character that is a digit is none that is not. -/
theorem isDigit_ne {c : Char} (hc : Number.isDigit c = true) (d : Char)
    (hd : Number.isDigit d = false) : c ≠ d := by
  rintro rfl
  rw [hc] at hd
  cases hd

/-- Digits begin no word. -/
theorem words_eq_none_of_digit {c : Char} (hc : Number.isDigit c = true) (rest : List Char) :
    (words.findSome? fun (w, v) => (dropWord? w (c :: rest)).map (v, ·)) = none := by
  have hne := isDigit_ne hc
  simp [words, dropWord?, (hne 'n' rfl).symm, (hne 't' rfl).symm, (hne 'f' rfl).symm,
    (hne 'N' rfl).symm, (hne 'I' rfl).symm, (hne '-' rfl).symm]

/-- A sign before digits begins no word. -/
theorem words_eq_none_of_sign {c : Char} (hc : Number.isDigit c = true) (rest : List Char) :
    (words.findSome? fun (w, v) => (dropWord? w ('-' :: c :: rest)).map (v, ·)) = none := by
  have hne := isDigit_ne hc
  simp [words, dropWord?, (hne 'I' rfl).symm]

/-- A written number: a sign that may be missing, and characters that begin with a digit. -/
structure IsSigned (neg : Bool) (body cs : List Char) : Prop where
  eq : cs = (if neg then ['-'] else []) ++ body
  head : ∃ c, body.head? = some c ∧ Number.isDigit c = true

section Signed

variable {neg : Bool} {body cs : List Char}

/-- A written number begins with its sign or with a digit. -/
theorem IsSigned.exists_cons (h : IsSigned neg body cs) :
    ∃ c cs', cs = c :: cs' ∧ (c = '-' ∨ Number.isDigit c = true) := by
  obtain ⟨rfl, c, hhead, hc⟩ := h
  obtain ⟨cs', rfl⟩ := List.head?_eq_some_iff.mp hhead
  cases neg
  · exact ⟨c, cs', rfl, .inr hc⟩
  · exact ⟨'-', c :: cs', rfl, .inl rfl⟩

/-- **A number with its sign is read as its reader says.** -/
theorem IsSigned.readAtom (h : IsSigned neg body cs) (rest : List Char) :
    readAtom (cs ++ rest) = readNumber neg (body ++ rest) := by
  obtain ⟨rfl, c, hhead, hc⟩ := h
  obtain ⟨cs, rfl⟩ := List.head?_eq_some_iff.mp hhead
  cases neg with
  | true =>
    have hwords := words_eq_none_of_sign hc (cs ++ rest)
    simp only [reduceIte, List.cons_append, List.nil_append]
    rw [Json.readAtom, hwords]
  | false =>
    have hwords := words_eq_none_of_digit hc (cs ++ rest)
    simp only [Bool.false_eq_true, reduceIte, List.cons_append, List.nil_append]
    rw [Json.readAtom, hwords]
    intro rest' heq
    exact absurd (List.cons.inj heq).1 (isDigit_ne hc '-' rfl)

end Signed

theorem isSigned_intChars (k : ℤ) :
    IsSigned (decide (k < 0)) (Nat.toDigits 10 k.natAbs) (intChars k) where
  eq := by simp [intChars]
  head := by
    obtain ⟨c, cs, heq⟩ := List.exists_cons_of_ne_nil (Nat.toDigits_ne_nil (b := 10) (n := k.natAbs))
    refine ⟨c, by rw [heq]; rfl, Number.isDigit_of_mem_toDigits (n := k.natAbs) ?_⟩
    rw [heq]
    exact List.mem_cons_self

/-- An integer is its sign and the natural behind it. -/
theorem signed_natAbs (k : ℤ) :
    (if decide (k < 0) = true then -(k.natAbs : ℤ) else k.natAbs) = k := by
  split
  · next h =>
    have := of_decide_eq_true h
    omega
  · next h =>
    have := of_decide_eq_false (Bool.eq_false_of_not_eq_true h)
    omega

/-- **An integer is read as it was written.** -/
theorem readAtom_intChars {k : ℤ} (hk : isWritableInt k = true) {rest : List Char}
    (hrest : endsNumber rest) : readAtom (intChars k ++ rest) = some (.int k, rest) := by
  have hlen : (Nat.toDigits 10 k.natAbs).length ≤ maxDigits := by
    have hlimit : maxDigits = Number.maxIntDigits := rfl
    rw [isWritableInt, decide_eq_true_iff] at hk
    rw [hlimit]
    exact Number.length_toDigits_le (by decide) hk
  rw [(isSigned_intChars k).readAtom, readNumber_toDigits _ _ hrest hlen, signed_natAbs]

/-- JSON has a finite number as it is shown. -/
theorem floatChars_eq_chars {d : Double} (hd : d.isFinite = true) : floatChars d = d.chars := by
  cases d with
  | finite => rfl
  | _ => cases hd

/-- What is written for a finite number, in JSON. -/
theorem exists_isSigned_floatChars {d : Double} (hd : d.isFinite = true) :
    ∃ n : Numeral, n.WellFormed ∧ n.isPointed ∧ IsSigned d.isNegative n.chars (floatChars d) ∧
      Double.ofDecimal d.isNegative n.coefficient n.scale = d := by
  obtain ⟨n, hn, hpointed, hchars, hvalue⟩ := Double.exists_numeral_chars hd
  refine ⟨n, hn, hpointed, ⟨?_, ?_⟩, hvalue⟩
  · rw [← hchars, floatChars_eq_chars hd]
  · obtain ⟨c, cs, heq⟩ := List.exists_cons_of_ne_nil hn.whole_ne_nil
    refine ⟨c, by rw [Numeral.chars, heq]; rfl, hn.isDigit_whole c ?_⟩
    rw [heq]
    exact List.mem_cons_self

/-- **A finite number is read as it was written.** -/
theorem readAtom_floatChars {d : Double} (hd : d.isFinite = true) {rest : List Char}
    (hrest : endsNumber rest) : readAtom (floatChars d ++ rest) = some (.float d, rest) := by
  obtain ⟨n, hn, hpointed, hsigned, hvalue⟩ := exists_isSigned_floatChars hd
  rw [hsigned.readAtom, readNumber_numeral _ hn hpointed hrest, hvalue]

/-! ### Values -/

/-- A text without quotes and brackets in front is an atom. -/
theorem readValue_eq_readAtom {c : Char} {rest : List Char} (fuel : ℕ) (hquote : c ≠ '"')
    (hbracket : c ≠ '[') (hbrace : c ≠ '{') :
    readValue (fuel + 1) (c :: rest) = readAtom (c :: rest) := by
  rw [readValue]
  all_goals simp [hquote, hbracket, hbrace]

theorem IsSigned.readValue {neg : Bool} {body cs : List Char} (h : IsSigned neg body cs) (fuel : ℕ)
    (rest : List Char) : readValue (fuel + 1) (cs ++ rest) = Json.readAtom (cs ++ rest) := by
  obtain ⟨c, cs, rfl, hc⟩ := h.exists_cons
  rcases hc with rfl | hc
  · exact readValue_eq_readAtom fuel (by decide) (by decide) (by decide)
  · have hne := isDigit_ne hc
    exact readValue_eq_readAtom fuel (hne _ rfl) (hne _ rfl) (hne _ rfl)

/-- What is written for a value begins with a character that is no white space and closes nothing. -/
theorem exists_write_eq_cons (st : Style) (depth : ℕ) {v : Value} (hv : v.HasTextKeys) :
    ∃ c cs, write st depth v = c :: cs ∧ isSpace c = false ∧ c ≠ ']' ∧ c ≠ '}' := by
  have hnumber : ∀ {neg body cs}, IsSigned neg body cs →
      ∃ c cs', cs = c :: cs' ∧ isSpace c = false ∧ c ≠ ']' ∧ c ≠ '}' := by
    intro neg body cs h
    obtain ⟨c, cs', rfl, hc⟩ := h.exists_cons
    refine ⟨c, cs', rfl, ?_⟩
    rcases hc with rfl | hc
    · decide
    · have hne := isDigit_ne hc
      exact ⟨by simp [isSpace, hne ' ' rfl, hne '\t' rfl, hne '\n' rfl, hne '\r' rfl],
        hne _ rfl, hne _ rfl⟩
  cases hv with
  | scalar k =>
    cases k with
    | null => exact ⟨_, _, rfl, by decide⟩
    | bool b => cases b <;> exact ⟨_, _, rfl, by decide⟩
    | int k => exact hnumber (isSigned_intChars k)
    | float d =>
      cases d with
      | nan => exact ⟨_, _, rfl, by decide⟩
      | inf neg => cases neg <;> exact ⟨_, _, rfl, by decide⟩
      | finite neg m q h =>
        obtain ⟨n, -, -, hsigned, -⟩ := exists_isSigned_floatChars (d := .finite neg m q h) rfl
        exact hnumber hsigned
    | str s => exact ⟨_, _, rfl, by decide⟩
  | @list items _ => cases items <;> exact ⟨_, _, by rw [write], by decide⟩
  | @obj es _ _ _ =>
    rcases es with _ | ⟨⟨k, v⟩, es⟩
    · exact ⟨_, _, rfl, by decide⟩
    · exact ⟨_, _, by rw [write], by decide⟩

/-- What follows a value inside a collection cannot be taken for the rest of a number. -/
theorem endsNumber_cons {c : Char} (hc : c = ',' ∨ c = ']' ∨ c = '}' ∨ isSpace c = true)
    (rest : List Char) : endsNumber (c :: rest) := by
  intro d hd
  obtain rfl := Option.some.inj hd
  rcases hc with rfl | rfl | rfl | hc
  · decide
  · decide
  · decide
  · rw [isSpace] at hc
    simp only [Bool.or_eq_true, decide_eq_true_eq] at hc
    rcases hc with ((rfl | rfl) | rfl) | rfl <;> decide

theorem endsNumber_space_append {space rest : List Char} (hspace : ∀ c ∈ space, isSpace c = true)
    (hrest : endsNumber rest) : endsNumber (space ++ rest) := by
  cases space with
  | nil => exact hrest
  | cons c cs => exact endsNumber_cons (.inr (.inr (.inr (hspace c List.mem_cons_self)))) _

/-- What is read back at any depth, with fuel for twice the length. -/
def ReadsBack (st : Style) (v : Value) : Prop :=
  ∀ depth rest fuel, endsNumber rest → 2 * (write st depth v).length ≤ fuel →
    readValue fuel (write st depth v ++ rest) = some (v, rest)

theorem readsBack_of_readAtom {v : Value} (hne : ∀ depth, write st depth v ≠ [])
    (h : ∀ depth rest fuel, endsNumber rest →
      readValue (fuel + 1) (write st depth v ++ rest) = some (v, rest)) : ReadsBack st v := by
  intro depth rest fuel hrest hfuel
  have hpos := List.length_pos_iff.mpr (hne depth)
  obtain ⟨fuel, rfl⟩ : ∃ f, fuel = f + 1 := ⟨fuel - 1, by omega⟩
  exact h depth rest fuel hrest

/-- What is written for a value is not skipped. -/
theorem head?_write (st : Style) (depth : ℕ) {v : Value} (hv : v.HasTextKeys) (rest : List Char) :
    ∀ c ∈ (write st depth v ++ rest).head?, isSpace c = false := by
  obtain ⟨c, cs, hcons, hc, -⟩ := exists_write_eq_cons st depth hv
  rw [hcons]
  exact fun d hd => Option.some.inj hd ▸ hc

/-- **The items of a list are read back** up to its closing bracket. -/
theorem readItems_write (hst : st.IsPlain) {v : Value} {vs : List Value}
    (htext : ∀ w ∈ v :: vs, w.HasTextKeys) (hback : ∀ w ∈ v :: vs, ReadsBack st w)
    (depth : ℕ) (closing rest : List Char) (hclosing : ∀ c ∈ closing, isSpace c = true) (fuel : ℕ)
    (hfuel : 2 * ((write st depth v).length + (writeItems st depth vs).length) + 1 ≤ fuel) :
    readItems fuel (write st depth v ++ (writeItems st depth vs ++ (closing ++ ']' :: rest))) =
      some (v :: vs, rest) := by
  have hclose : skipSpace (closing ++ ']' :: rest) = ']' :: rest :=
    skipSpace_append hclosing (by simp [isSpace])
  have hcomma : ∀ tail, skipSpace (',' :: tail) = ',' :: tail := fun tail => rfl
  obtain ⟨space, hsep, hskip⟩ := hst.exists_itemSep
  induction vs generalizing v fuel with
  | nil =>
    obtain ⟨fuel, rfl⟩ : ∃ f, fuel = f + 1 := ⟨fuel - 1, by omega⟩
    have hread := hback v List.mem_cons_self depth (closing ++ ']' :: rest) fuel
      (endsNumber_space_append hclosing (endsNumber_cons (.inr (.inl rfl)) rest)) (by omega)
    rw [writeItems, List.nil_append, readItems, hread]
    simp only [Option.bind_eq_bind, Option.bind_some, hclose]
    rfl
  | cons w ws ih =>
    rw [writeItems, hsep] at hfuel ⊢
    simp only [List.length_append, List.length_cons] at hfuel
    simp only [List.append_assoc, List.cons_append]
    obtain ⟨fuel, rfl⟩ : ∃ f, fuel = f + 1 := ⟨fuel - 1, by omega⟩
    have hread := hback v List.mem_cons_self depth (',' :: (space ++ (st.lineBreak depth ++
      (write st depth w ++ (writeItems st depth ws ++ (closing ++ ']' :: rest)))))) fuel
      (endsNumber_cons (.inl rfl) _) (by omega)
    have hnext := hskip depth _ (head?_write st depth (htext w (by simp))
      (writeItems st depth ws ++ (closing ++ ']' :: rest)))
    have hrest := ih (fun u hu => htext u (List.mem_cons_of_mem _ hu))
      (fun u hu => hback u (List.mem_cons_of_mem _ hu)) fuel (by omega)
    rw [readItems, hread]
    simp only [Option.bind_eq_bind, Option.bind_some, hcomma, hnext, hrest]
    rfl

/-- **The entries of an object are read back** up to its closing brace. -/
theorem readEntries_write (hst : st.IsPlain) {k : String} {v : Value} {es : List (Key × Value)}
    (hkeys : ∀ e ∈ es, ∃ s, e.1 = .str s)
    (htext : ∀ e ∈ (.str k, v) :: es, e.2.HasTextKeys)
    (hback : ∀ e ∈ (.str k, v) :: es, ReadsBack st e.2) (depth : ℕ) (closing rest : List Char)
    (hclosing : ∀ c ∈ closing, isSpace c = true) (fuel : ℕ)
    (hfuel : 2 * ((write st depth v).length + (writeEntries st depth es).length) + 1 ≤ fuel) :
    readEntries fuel (quote st.ascii k ++ (st.keySep ++ (write st depth v ++
      (writeEntries st depth es ++ (closing ++ '}' :: rest))))) = some ((.str k, v) :: es, rest) := by
  have hclose : skipSpace (closing ++ '}' :: rest) = '}' :: rest :=
    skipSpace_append hclosing (by simp [isSpace])
  have hcolon : ∀ tail, skipSpace (':' :: tail) = ':' :: tail := fun tail => rfl
  have hcomma : ∀ tail, skipSpace (',' :: tail) = ',' :: tail := fun tail => rfl
  obtain ⟨space, hsep, hskip⟩ := hst.exists_itemSep
  obtain ⟨keySpace, hkeySep, hskipKey⟩ := hst.exists_keySep
  rw [hkeySep]
  induction es generalizing k v fuel with
  | nil =>
    obtain ⟨fuel, rfl⟩ : ∃ f, fuel = f + 1 := ⟨fuel - 1, by omega⟩
    have hv : ReadsBack st v := hback (.str k, v) List.mem_cons_self
    have hread := hv depth (closing ++ '}' :: rest) fuel
      (endsNumber_space_append hclosing (endsNumber_cons (.inr (.inr (.inl rfl))) rest)) (by omega)
    have hhead := head?_write st depth (htext _ List.mem_cons_self) (closing ++ '}' :: rest)
    have hvalue := hskipKey _ hhead
    rw [writeEntries, List.nil_append, List.cons_append]
    obtain ⟨cs, hquote, hstring⟩ := readString_quote st.ascii k (':' :: (keySpace ++ (write st depth v ++
      (closing ++ '}' :: rest))))
    rw [hquote, readEntries, hstring]
    simp only [Option.bind_eq_bind, Option.bind_some, hcolon, hvalue, hread, hclose]
    rfl
  | cons e es ih =>
    obtain ⟨k', w⟩ := e
    obtain ⟨t, rfl⟩ : ∃ t, k' = .str t := hkeys _ List.mem_cons_self
    have hkeyText : keyText (.str t) = t := rfl
    rw [writeEntries, hsep, hkeySep, hkeyText] at hfuel ⊢
    simp only [List.length_append, List.length_cons] at hfuel
    simp only [List.append_assoc, List.cons_append]
    obtain ⟨fuel, rfl⟩ : ∃ f, fuel = f + 1 := ⟨fuel - 1, by omega⟩
    have hv : ReadsBack st v := hback (.str k, v) List.mem_cons_self
    have hread := hv depth (',' :: (space ++ (st.lineBreak depth ++ (quote st.ascii t ++ (':' ::
      (keySpace ++ (write st depth w ++ (writeEntries st depth es ++ (closing ++ '}' :: rest)))))))))
      fuel (endsNumber_cons (.inl rfl) _) (by omega)
    have hvalue := hskipKey _ (head?_write st depth (htext _ List.mem_cons_self) (',' :: (space ++
      (st.lineBreak depth ++ (quote st.ascii t ++ (':' :: (keySpace ++ (write st depth w ++
        (writeEntries st depth es ++ (closing ++ '}' :: rest))))))))))
    have hnext := hskip depth (quote st.ascii t ++ (':' :: (keySpace ++ (write st depth w ++
      (writeEntries st depth es ++ (closing ++ '}' :: rest)))))) (by simp [quote, isSpace])
    have hrest := ih (fun e he => hkeys e (List.mem_cons_of_mem _ he))
      (fun e he => htext e (List.mem_cons_of_mem _ he))
      (fun e he => hback e (List.mem_cons_of_mem _ he)) fuel (by omega)
    rw [List.cons_append] at hrest
    obtain ⟨cs, hquote, hstring⟩ := readString_quote st.ascii k (':' :: (keySpace ++ (write st depth v ++
      (',' :: (space ++ (st.lineBreak depth ++ (quote st.ascii t ++ (':' :: (keySpace ++
        (write st depth w ++ (writeEntries st depth es ++ (closing ++ '}' :: rest))))))))))))
    rw [hquote, readEntries, hstring]
    simp only [Option.bind_eq_bind, Option.bind_some, hcolon, hvalue, hread, hcomma, hnext, hrest]
    rfl

theorem isWritable_of_mem {items : List Value} (h : Value.areWritable items = true) {v : Value}
    (hv : v ∈ items) : v.isWritable = true := by
  induction items with
  | nil => cases hv
  | cons w ws ih =>
    rw [Value.areWritable, Bool.and_eq_true_iff] at h
    rcases List.mem_cons.mp hv with rfl | hv
    · exact h.1
    · exact ih h.2 hv

theorem isWritable_of_mem_entries {es : List (Key × Value)}
    (h : Value.areEntriesWritable es = true) {e : Key × Value} (he : e ∈ es) :
    e.2.isWritable = true := by
  induction es with
  | nil => cases he
  | cons e' es ih =>
    rw [Value.areEntriesWritable, Bool.and_eq_true_iff, Bool.and_eq_true_iff] at h
    rcases List.mem_cons.mp he with rfl | he
    · exact h.1.2
    · exact ih h.2 he

/-- A value that is no collection is read back. -/
theorem readsBack_ofKey {k : Key} (hwritable : (Value.ofKey k).isWritable = true) :
    ReadsBack st (.ofKey k) := by
  have hne : ∀ depth, write st depth (.ofKey k) ≠ [] := by
    intro depth
    obtain ⟨c, cs, heq, -⟩ := exists_write_eq_cons st depth (.scalar k)
    simp [heq]
  cases k with
  | null => exact readsBack_of_readAtom hne fun depth rest fuel hrest => rfl
  | bool b => cases b <;> exact readsBack_of_readAtom hne fun depth rest fuel hrest => rfl
  | int n =>
    refine readsBack_of_readAtom hne fun depth rest fuel hrest => ?_
    rw [Value.ofKey, write, (isSigned_intChars n).readValue, readAtom_intChars hwritable hrest]
  | float d =>
    cases d with
    | nan => exact readsBack_of_readAtom hne fun depth rest fuel hrest => rfl
    | inf neg => cases neg <;> exact readsBack_of_readAtom hne fun depth rest fuel hrest => rfl
    | finite neg m q h =>
      have hd : (Double.finite neg m q h).isFinite = true := rfl
      refine readsBack_of_readAtom hne fun depth rest fuel hrest => ?_
      obtain ⟨n, -, -, hsigned, -⟩ := exists_isSigned_floatChars hd
      rw [Value.ofKey, write, hsigned.readValue, readAtom_floatChars hd hrest]
  | str s =>
    refine readsBack_of_readAtom hne fun depth rest fuel hrest => ?_
    obtain ⟨cs, heq, hread⟩ := readString_quote st.ascii s rest
    rw [Value.ofKey, write, heq, readValue, hread]
    rfl

/-- **JSON is read back as what was written**, in front of all that does not go on with a number. -/
theorem readValue_write (hst : st.IsPlain) {v : Value} (htext : v.HasTextKeys)
    (hwritable : v.isWritable = true) : ReadsBack st v := by
  induction htext with
  | scalar k => exact readsBack_ofKey hwritable
  | @list items hitems ih =>
    have hback : ∀ w ∈ items, ReadsBack st w := fun w hw => ih w hw (isWritable_of_mem hwritable hw)
    intro depth rest fuel hrest hfuel
    cases items with
    | nil =>
      obtain ⟨fuel, rfl⟩ : ∃ f, fuel = f + 1 := ⟨fuel - 1, by simp [write] at hfuel; omega⟩
      rfl
    | cons v vs =>
      have hopen : ∀ tail, skipSpace (st.lineBreak (depth + 1) ++ (write st (depth + 1) v ++ tail)) =
          write st (depth + 1) v ++ tail := fun tail =>
        skipSpace_append (hst.isSpace_lineBreak _)
          (head?_write st (depth + 1) (hitems v List.mem_cons_self) tail)
      rw [write] at hfuel ⊢
      simp only [List.length_append, List.length_cons] at hfuel
      simp only [List.append_assoc, List.cons_append, List.nil_append]
      obtain ⟨fuel, rfl⟩ : ∃ f, fuel = f + 1 := ⟨fuel - 1, by omega⟩
      have hread := readItems_write hst hitems hback (depth + 1) (st.lineBreak depth) rest
        (hst.isSpace_lineBreak depth) fuel (by omega)
      obtain ⟨c, cs, hcons, -, hbracket, -⟩ :=
        exists_write_eq_cons st (depth + 1) (hitems v List.mem_cons_self)
      rw [readValue, hopen]
      rw [hcons, List.cons_append] at hread ⊢
      split
      · next heq => exact absurd (List.cons.inj heq).1 hbracket
      · rw [hread]
        rfl
  | @obj es hkeys hnodup hvalues ih =>
    have hback : ∀ e ∈ es, ReadsBack st e.2 := fun e he =>
      ih e he (isWritable_of_mem_entries hwritable he)
    intro depth rest fuel hrest hfuel
    rcases es with _ | ⟨⟨k, v⟩, es⟩
    · obtain ⟨fuel, rfl⟩ : ∃ f, fuel = f + 1 := ⟨fuel - 1, by simp [write] at hfuel; omega⟩
      rfl
    · obtain ⟨s, rfl⟩ : ∃ s, k = .str s := hkeys k List.mem_cons_self
      have hkeyText : keyText (.str s) = s := rfl
      have hkeys' : ∀ e ∈ es, ∃ t, e.1 = .str t := fun e he =>
        hkeys e.1 (List.mem_cons_of_mem _ (Entries.mem_keys_of_mem he))
      rw [write, hkeyText] at hfuel ⊢
      simp only [List.length_append, List.length_cons] at hfuel
      simp only [List.append_assoc, List.cons_append, List.nil_append]
      obtain ⟨fuel, rfl⟩ : ∃ f, fuel = f + 1 := ⟨fuel - 1, by omega⟩
      have hread := readEntries_write hst hkeys' hvalues hback (depth + 1) (st.lineBreak depth) rest
        (hst.isSpace_lineBreak depth) fuel (by omega)
      have hquote : quote st.ascii s = '"' :: (s.toList.flatMap (escapeChar st.ascii) ++ ['"']) := rfl
      rw [hquote, List.cons_append] at hread ⊢
      rw [readValue, skipSpace_append (hst.isSpace_lineBreak _) (by simp [isSpace])]
      split
      · next heq => exact absurd (List.cons.inj heq).1 (by decide)
      · have hself := Entries.ofList_eq_self hkeys hnodup
        rw [hread, Option.map_some]
        simp only [hself]

/-- **A text is read back as the value that was printed**, if objects have distinct texts as keys. -/
theorem read?_print_of_hasTextKeys (hst : st.IsPlain) {v : Value} (htext : v.HasTextKeys)
    (hwritable : v.isWritable = true) : read? (print st v) = some v := by
  have hskip : skipSpace (write st 0 v) = write st 0 v := by
    have h := skipSpace_of_head? (head?_write st 0 htext [])
    rwa [List.append_nil] at h
  have hread := readValue_write hst htext hwritable 0 [] (2 * (write st 0 v).length + 2)
    (by simp [endsNumber]) (by omega)
  rw [List.append_nil] at hread
  rw [read?, print, String.toList_ofList, readChars?, hskip, hread]
  rfl

/-- **A JSON text is read back as what was printed.** -/
theorem read?_print (hst : st.IsPlain) {v : Value} (hjson : v.IsJson)
    (hwritable : v.isWritable = true) : read? (print st v) = some v :=
  read?_print_of_hasTextKeys hst hjson.hasTextKeys hwritable

end Json

end WizardLogic
