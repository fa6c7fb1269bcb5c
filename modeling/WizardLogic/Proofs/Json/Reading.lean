import Mathlib
import WizardLogic.Proofs.Json.RoundTrip
import WizardLogic.Proofs.Value.Objects

/-!
# Writing again what was read

A text may spell a value in many ways: with escapes or without, with a key given twice, with any
white space. What is read from it is a value that can be written (`Value.IsReadable`): the keys of
its objects are distinct texts, because a key that is repeated keeps its first place and its last
value, and an integer has no more digits than are ever written, because longer ones are not read.

So writing what was read, in any layout, and reading that gives the same value
(`Json.read?_print_of_read?`): its numbers are of the same kinds, its objects have their keys in the
same order, and its strings have all their characters. In the layouts that escape what is beyond
ASCII, the text has nothing else (`Json.isAscii_of_mem_print`).
-/

namespace WizardLogic

/-! ### What is read -/

/-- The integers that can be written are those below a power of ten. -/
theorem isWritableInt_iff {n : ℤ} :
    isWritableInt n = true ↔ n.natAbs < 10 ^ Number.maxIntDigits := by
  unfold isWritableInt
  generalize Number.maxIntDigits = limit
  exact decide_eq_true_iff

namespace Value

/-- **The values that are read**: the keys of their objects are distinct texts, and their integers
can be written out. -/
structure IsReadable (v : Value) : Prop where
  hasTextKeys : v.HasTextKeys
  isWritable : v.isWritable = true

theorem areWritable_of_forall {items : List Value} (h : ∀ v ∈ items, v.isWritable = true) :
    areWritable items = true := by
  induction items with
  | nil => rfl
  | cons v vs ih =>
    obtain ⟨hv, hvs⟩ := List.forall_mem_cons.mp h
    rw [areWritable, hv, ih hvs, Bool.and_self]

theorem areEntriesWritable_of_forall {es : Entries Value}
    (h : ∀ e ∈ es, (∃ s, e.1 = .str s) ∧ e.2.isWritable = true) :
    areEntriesWritable es = true := by
  induction es with
  | nil => rfl
  | cons e es ih =>
    obtain ⟨k, v⟩ := e
    obtain ⟨⟨⟨s, rfl⟩, hv⟩, hes⟩ := List.forall_mem_cons.mp h
    rw [areEntriesWritable, hv, ih hes]
    rfl

theorem IsReadable.list {items : List Value} (h : ∀ v ∈ items, v.IsReadable) :
    (list items).IsReadable where
  hasTextKeys := .list fun v hv => (h v hv).hasTextKeys
  isWritable := areWritable_of_forall fun v hv => (h v hv).isWritable

/-- An object of entries under texts is read, whichever keys are repeated. -/
theorem IsReadable.ofList {es : Entries Value}
    (h : ∀ e ∈ es, (∃ s, e.1 = .str s) ∧ e.2.IsReadable) : (obj (Entries.ofList es)).IsReadable := by
  have hkeyed : (Entries.ofList es).KeyedByTexts := by
    refine Entries.KeyedByTexts.nil.merge fun k hk => ?_
    obtain ⟨e, he, rfl⟩ := List.mem_map.mp hk
    exact (h e he).1
  have hread : ∀ e ∈ Entries.ofList es, e.2.IsReadable := by
    intro e he
    obtain ⟨f, hf, heq⟩ := List.mem_map.mp ((Entries.mem_merge he).resolve_left List.not_mem_nil)
    exact heq ▸ (h f hf).2
  exact ⟨.obj hkeyed.texts hkeyed.nodup fun e he => (hread e he).hasTextKeys,
    areEntriesWritable_of_forall fun e he =>
      ⟨hkeyed.texts e.1 (Entries.mem_keys_of_mem he), (hread e he).isWritable⟩⟩

/-- The keys of an object that is read are distinct texts. -/
theorem IsReadable.keyedByTexts {es : Entries Value} (h : (obj es).IsReadable) :
    es.KeyedByTexts :=
  let ⟨hkeys, hnodup, _⟩ := hasTextKeys_obj.mp h.hasTextKeys
  ⟨hkeys, hnodup⟩

/-- What an object that is read has under its keys is itself read. -/
theorem IsReadable.of_mem_entries {es : Entries Value} (h : (obj es).IsReadable) {k : Key}
    {v : Value} (hmem : (k, v) ∈ es) : v.IsReadable where
  hasTextKeys := (hasTextKeys_obj.mp h.hasTextKeys).2.2 _ hmem
  isWritable := Json.isWritable_of_mem_entries h.isWritable hmem

end Value

namespace Json

open Value (IsReadable)

/-- Digits denote less than the power of ten that has one digit more. -/
theorem digitsValue_lt {cs : List Char} (h : ∀ c ∈ cs, isDigit c = true) :
    digitsValue cs < 10 ^ cs.length := by
  induction cs with
  | nil => exact Nat.one_pos
  | cons c cs ih =>
    obtain ⟨hc, hcs⟩ := List.forall_mem_cons.mp h
    have hdigit : c.toNat ≤ 57 := by
      simp only [isDigit, Bool.and_eq_true, decide_eq_true_eq] at hc
      exact hc.2
    have hfirst : digitsValue [c] ≤ 9 := by
      change 0 * 10 + (c.toNat - 48) ≤ 9
      omega
    have happend : digitsValue (c :: cs) = digitsValue [c] * 10 ^ cs.length + digitsValue cs :=
      Number.digitsValue_append [c] cs
    have hrest := ih hcs
    have hmul := Nat.mul_le_mul_right (10 ^ cs.length) hfirst
    rw [happend, List.length_cons, pow_succ]
    omega

/-- The digits before the point are digits. -/
theorem isDigit_of_readWhole {cs whole rest : List Char} (h : readWhole cs = some (whole, rest)) :
    ∀ c ∈ whole, isDigit c = true := by
  unfold readWhole takeDigits at h
  split at h
  · cases h
    simp [isDigit]
  · dsimp only at h
    split at h
    · cases h
    · cases h
      exact fun c hc => List.mem_takeWhile_imp hc

/-- **A number that is read can be written**: an integer is not read beyond the limit. -/
theorem isReadable_of_readNumber {neg : Bool} {cs rest : List Char} {v : Value}
    (h : readNumber neg cs = some (v, rest)) : v.IsReadable := by
  unfold readNumber at h
  obtain ⟨⟨whole, after⟩, hwhole, h⟩ := Option.bind_eq_some_iff.mp h
  dsimp only at h
  split at h
  · split at h
    · cases h
    · next hlength =>
      have hlimit : maxDigits = Number.maxIntDigits := rfl
      have hlt := (digitsValue_lt (isDigit_of_readWhole hwhole)).trans_le
        (Nat.pow_le_pow_right (by decide) (Nat.le_of_not_lt hlength))
      rw [hlimit] at hlt
      cases h
      refine ⟨.scalar (.int _), isWritableInt_iff.mpr ?_⟩
      cases neg
      · rwa [if_neg Bool.false_ne_true, Int.natAbs_natCast]
      · rwa [if_pos rfl, Int.natAbs_neg, Int.natAbs_natCast]
  · cases h
    exact ⟨.scalar (.float _), rfl⟩

theorem isReadable_of_readAtom {cs rest : List Char} {v : Value}
    (h : readAtom cs = some (v, rest)) : v.IsReadable := by
  unfold readAtom at h
  split at h
  · next r hword =>
    cases h
    obtain ⟨⟨word, w⟩, hmem, hdrop⟩ := List.exists_of_findSome?_eq_some hword
    obtain ⟨rest', -, heq⟩ := Option.map_eq_some_iff.mp hdrop
    cases heq
    simp only [words, List.mem_cons, Prod.mk.injEq, List.not_mem_nil, or_false] at hmem
    rcases hmem with ⟨-, rfl⟩ | ⟨-, rfl⟩ | ⟨-, rfl⟩ | ⟨-, rfl⟩ | ⟨-, rfl⟩ | ⟨-, rfl⟩
    · exact ⟨.scalar .null, rfl⟩
    · exact ⟨.scalar (.bool true), rfl⟩
    · exact ⟨.scalar (.bool false), rfl⟩
    · exact ⟨.scalar (.float .nan), rfl⟩
    · exact ⟨.scalar (.float (.inf false)), rfl⟩
    · exact ⟨.scalar (.float (.inf true)), rfl⟩
  · split at h <;> exact isReadable_of_readNumber h

/-- **What the readers read**, at any depth: values that can be written, and entries under texts. -/
theorem isReadable_of_readers (fuel : ℕ) :
    (∀ {cs v rest}, readValue fuel cs = some (v, rest) → v.IsReadable) ∧
    (∀ {cs vs rest}, readItems fuel cs = some (vs, rest) → ∀ v ∈ vs, v.IsReadable) ∧
    ∀ {cs es rest}, readEntries fuel cs = some (es, rest) →
      ∀ e ∈ es, (∃ s, e.1 = .str s) ∧ e.2.IsReadable := by
  induction fuel with
  | zero => exact ⟨nofun, nofun, nofun⟩
  | succ fuel ih =>
    obtain ⟨hvalue, hitems, hentries⟩ := ih
    refine ⟨fun {cs v rest} h => ?_, fun {cs vs rest} h => ?_, fun {cs es rest} h => ?_⟩
    · unfold readValue at h
      dsimp only at h
      split at h
      · obtain ⟨⟨s, rest'⟩, -, heq⟩ := Option.map_eq_some_iff.mp h
        cases heq
        exact ⟨.scalar (.str s), rfl⟩
      · split at h
        · cases h
          exact .list (List.forall_mem_nil _)
        · obtain ⟨⟨items, rest'⟩, hread, heq⟩ := Option.map_eq_some_iff.mp h
          cases heq
          exact .list (hitems hread)
      · split at h
        · cases h
          have hnil : ∀ e ∈ ([] : Entries Value), (∃ s, e.1 = .str s) ∧ e.2.IsReadable :=
            List.forall_mem_nil _
          exact .ofList hnil
        · obtain ⟨⟨es, rest'⟩, hread, heq⟩ := Option.map_eq_some_iff.mp h
          cases heq
          exact .ofList (hentries hread)
      · exact isReadable_of_readAtom h
    · unfold readItems at h
      obtain ⟨⟨v, after⟩, hv, h⟩ := Option.bind_eq_some_iff.mp h
      dsimp only at h
      split at h
      · cases h
        exact List.forall_mem_singleton.mpr (hvalue hv)
      · obtain ⟨⟨vs', after'⟩, hvs, h⟩ := Option.bind_eq_some_iff.mp h
        cases h
        exact List.forall_mem_cons.mpr ⟨hvalue hv, hitems hvs⟩
      · cases h
    · unfold readEntries at h
      dsimp only at h
      split at h
      · obtain ⟨⟨k, afterKey⟩, -, h⟩ := Option.bind_eq_some_iff.mp h
        dsimp only at h
        split at h
        · obtain ⟨⟨v, after⟩, hv, h⟩ := Option.bind_eq_some_iff.mp h
          dsimp only at h
          split at h
          · cases h
            exact List.forall_mem_singleton.mpr ⟨⟨k, rfl⟩, hvalue hv⟩
          · obtain ⟨⟨es', after'⟩, hes, h⟩ := Option.bind_eq_some_iff.mp h
            cases h
            exact List.forall_mem_cons.mpr ⟨⟨⟨k, rfl⟩, hvalue hv⟩, hentries hes⟩
          · cases h
        · cases h
      · cases h

/-- **What is read from a text can be written.** -/
theorem isReadable_of_read? {s : String} {v : Value} (h : read? s = some v) : v.IsReadable := by
  unfold read? readChars? at h
  split at h
  · next w rest hread =>
    split at h
    · cases h
      exact (isReadable_of_readers _).1 hread
    · cases h
  · cases h

/-- A text that is read as JSON where it can be is a value that can be written. -/
theorem isWritable_readOrText (s : String) : (readOrText s).isWritable = true := by
  rw [readOrText]
  cases hread : read? s with
  | none => rfl
  | some v => exact (isReadable_of_read? hread).isWritable

/-- **Writing what was read and reading it again gives the same value**, in any layout. -/
theorem read?_print_of_read? {st : Style} (hst : st.IsPlain) {s : String} {v : Value}
    (h : read? s = some v) : read? (print st v) = some v :=
  read?_print_of_hasTextKeys hst (isReadable_of_read? h).hasTextKeys (isReadable_of_read? h).isWritable

/-! ### What is written in ASCII -/

/-- Whether a character is in ASCII. -/
def isAscii (c : Char) : Bool := c.toNat < 128

theorem isAscii_hexDigit (n : ℕ) : isAscii (hexDigit (n % 16)) = true := by
  have hdigit : ∀ k < 16, isAscii (hexDigit k) = true := by decide
  exact hdigit _ (Nat.mod_lt _ (by decide))

theorem isAscii_of_mem_unitEscape {n : ℕ} : ∀ c ∈ unitEscape n, isAscii c = true := by
  simp only [unitEscape, List.forall_mem_cons, isAscii_hexDigit, List.not_mem_nil]
  exact ⟨rfl, rfl, trivial, trivial, trivial, trivial, nofun⟩

/-- A character is escaped in ASCII, whatever it is. -/
theorem isAscii_of_mem_escapeChar (ch : Char) : ∀ c ∈ escapeChar true ch, isAscii c = true := by
  have hescaped := escapedAs_escapeChar true ch
  generalize escapeChar true ch = cs at hescaped
  cases hescaped with
  | short he =>
    have hletter : ∀ p ∈ shortEscapes, isAscii p.1 = true := by decide
    exact List.forall_mem_cons.mpr ⟨rfl, List.forall_mem_singleton.mpr (hletter _ he)⟩
  | plain _ _ _ hsmall =>
    have hlt := hsmall rfl
    exact List.forall_mem_singleton.mpr (decide_eq_true (by omega))
  | unit => exact isAscii_of_mem_unitEscape
  | pair => exact List.forall_mem_append.mpr ⟨isAscii_of_mem_unitEscape, isAscii_of_mem_unitEscape⟩

theorem isAscii_of_mem_quote (s : String) : ∀ c ∈ quote true s, isAscii c = true := by
  refine List.forall_mem_cons.mpr ⟨rfl, List.forall_mem_append.mpr ⟨?_, List.all_eq_true.mp rfl⟩⟩
  intro c hc
  obtain ⟨ch, -, hch⟩ := List.mem_flatMap.mp hc
  exact isAscii_of_mem_escapeChar ch c hch

/-- What a written number consists of is in ASCII. -/
theorem IsSigned.isAscii_of_mem {neg : Bool} {body cs : List Char} (h : IsSigned neg body cs)
    (hbody : ∀ c ∈ body, c ∈ Number.numeralAlphabet) : ∀ c ∈ cs, isAscii c = true := by
  have hsmall : ∀ c ∈ Number.numeralAlphabet, isAscii c = true := List.all_eq_true.mp rfl
  rw [h.eq]
  refine List.forall_mem_append.mpr ⟨?_, fun c hc => hsmall c (hbody c hc)⟩
  cases neg <;> exact List.all_eq_true.mp rfl

theorem isAscii_of_mem_intChars (n : ℤ) : ∀ c ∈ intChars n, isAscii c = true :=
  (isSigned_intChars n).isAscii_of_mem fun _ hc =>
    Number.mem_numeralAlphabet_of_isDigit (Number.isDigit_of_mem_toDigits hc)

theorem isAscii_of_mem_floatChars (d : Double) : ∀ c ∈ floatChars d, isAscii c = true := by
  cases d with
  | nan => exact List.all_eq_true.mp rfl
  | inf neg => cases neg <;> exact List.all_eq_true.mp rfl
  | finite neg m q h =>
    obtain ⟨n, hn, -, hsigned, -⟩ := exists_isSigned_floatChars (d := .finite neg m q h) rfl
    exact hsigned.isAscii_of_mem fun _ hc => Number.mem_numeralAlphabet hn hc

section Ascii

variable {st : Style} (hst : st.IsPlain)
include hst

/-- What stands between the parts is in ASCII, whatever the layout. -/
theorem Style.IsPlain.isAscii_layout :
    (∀ c ∈ st.itemSep, isAscii c = true) ∧ (∀ c ∈ st.keySep, isAscii c = true) ∧
      ∀ depth, ∀ c ∈ st.lineBreak depth, isAscii c = true := by
  have hspace : ∀ c, isSpace c = true → isAscii c = true := by
    intro c hc
    simp only [isSpace, Bool.or_eq_true, decide_eq_true_eq] at hc
    rcases hc with ((rfl | rfl) | rfl) | rfl <;> rfl
  obtain ⟨space, hitem, hitemSpace⟩ := hst.itemSep
  obtain ⟨keySpace, hkey, hkeySpace⟩ := hst.keySep
  rw [hitem, hkey]
  exact ⟨List.forall_mem_cons.mpr ⟨rfl, fun c hc => hspace c (hitemSpace c hc)⟩,
    List.forall_mem_cons.mpr ⟨rfl, fun c hc => hspace c (hkeySpace c hc)⟩,
    fun depth c hc => hspace c (hst.isSpace_lineBreak depth c hc)⟩

mutual

/-- **A value is written in ASCII**, at any depth. -/
theorem isAscii_of_mem_write (hascii : st.ascii = true) (depth : ℕ) :
    (v : Value) → ∀ c ∈ write st depth v, isAscii c = true
  | .null => by rw [write]; exact List.all_eq_true.mp rfl
  | .bool b => by rw [write]; cases b <;> exact List.all_eq_true.mp rfl
  | .int n => by rw [write]; exact isAscii_of_mem_intChars n
  | .float d => by rw [write]; exact isAscii_of_mem_floatChars d
  | .str s => by rw [write, hascii]; exact isAscii_of_mem_quote s
  | .list [] => by rw [write]; exact List.all_eq_true.mp rfl
  | .list (v :: vs) => by
    have hbreak := hst.isAscii_layout.2.2
    rw [write]
    simp only [List.forall_mem_cons, List.forall_mem_append]
    exact ⟨rfl, ⟨⟨⟨hbreak _, isAscii_of_mem_write hascii (depth + 1) v⟩,
      isAscii_of_mem_writeItems hascii (depth + 1) vs⟩, hbreak _⟩, rfl, List.forall_mem_nil _⟩
  | .obj [] => by rw [write]; exact List.all_eq_true.mp rfl
  | .obj ((k, v) :: es) => by
    obtain ⟨-, hkeySep, hbreak⟩ := hst.isAscii_layout
    rw [write, hascii]
    simp only [List.forall_mem_cons, List.forall_mem_append]
    exact ⟨rfl, ⟨⟨⟨⟨⟨hbreak _, isAscii_of_mem_quote _⟩, hkeySep⟩,
      isAscii_of_mem_write hascii (depth + 1) v⟩, isAscii_of_mem_writeEntries hascii (depth + 1) es⟩,
      hbreak _⟩, rfl, List.forall_mem_nil _⟩

theorem isAscii_of_mem_writeItems (hascii : st.ascii = true) (depth : ℕ) :
    (vs : List Value) → ∀ c ∈ writeItems st depth vs, isAscii c = true
  | [] => by rw [writeItems]; exact List.forall_mem_nil _
  | v :: vs => by
    obtain ⟨hitemSep, -, hbreak⟩ := hst.isAscii_layout
    rw [writeItems]
    simp only [List.forall_mem_append]
    exact ⟨⟨⟨hitemSep, hbreak _⟩, isAscii_of_mem_write hascii depth v⟩,
      isAscii_of_mem_writeItems hascii depth vs⟩

theorem isAscii_of_mem_writeEntries (hascii : st.ascii = true) (depth : ℕ) :
    (es : List (Key × Value)) → ∀ c ∈ writeEntries st depth es, isAscii c = true
  | [] => by rw [writeEntries]; exact List.forall_mem_nil _
  | (k, v) :: es => by
    obtain ⟨hitemSep, hkeySep, hbreak⟩ := hst.isAscii_layout
    rw [writeEntries, hascii]
    simp only [List.forall_mem_append]
    exact ⟨⟨⟨⟨⟨hitemSep, hbreak _⟩, isAscii_of_mem_quote _⟩, hkeySep⟩,
      isAscii_of_mem_write hascii depth v⟩, isAscii_of_mem_writeEntries hascii depth es⟩

end

/-- **A text that escapes what is beyond ASCII is in ASCII**, whatever the value. -/
theorem isAscii_of_mem_print (hascii : st.ascii = true) (v : Value) :
    ∀ c ∈ (print st v).toList, isAscii c = true := by
  rw [print, String.toList_ofList]
  exact isAscii_of_mem_write hst hascii 0 v

end Ascii

end Json

end WizardLogic
