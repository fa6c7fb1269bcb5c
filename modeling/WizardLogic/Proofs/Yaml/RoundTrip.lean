import Mathlib
import WizardLogic.Text.LineEnd
import WizardLogic.Yaml
import WizardLogic.Proofs.Yaml.Nodes

/-!
# JSON text read as YAML

What is left between the text of a JSON value and the value that YAML reads there is the sense of
plain scalars. A constant or an integer is spelled in YAML as in JSON (`Tag.ofSpelling_intChars`). A
floating-point number is a numeral that has a point or an exponent: with a point it is a number
(`Tag.ofSpelling_numeral`), and with nothing but an exponent it is a text (`Tag.ofSpelling_whole`).
`Value.asYaml` is a value with such numbers replaced.

The main result is that the indented text of an object is read as that (`Yaml.read_print`), if the
texts and keys in the object are kept.
-/

namespace WizardLogic

/-! ### Texts without a mark -/

namespace Text

theorem find?_singleton_eq_none {mark : Char} {cs : List Char} (h : ∀ c ∈ cs, c ≠ mark) :
    find? [mark] cs = none := by
  induction cs with
  | nil => rfl
  | cons c cs ih =>
    obtain ⟨hc, hcs⟩ := List.forall_mem_cons.mp h
    have hpre : [mark].isPrefixOf (c :: cs) = false := by
      simp [List.isPrefixOf, beq_eq_false_iff_ne.mpr hc.symm]
    rw [find?, hpre, ih hcs]
    rfl

/-- Where a mark does not occur, nothing is split. -/
theorem split_eq_self {mark : Char} {cs : List Char} (h : ∀ c ∈ cs, c ≠ mark) :
    split [mark] none cs = [cs] := by
  rw [split, splitOn, find?_singleton_eq_none h]
  rfl

theorem shortLineEnds_eq_self {cs : List Char} (h : ∀ c ∈ cs, c ≠ '\r') : shortLineEnds cs = cs := by
  induction cs with
  | nil => rfl
  | cons c cs ih =>
    obtain ⟨hc, hcs⟩ := List.forall_mem_cons.mp h
    rw [shortLineEnds, ih hcs]
    · rintro _ rfl -
      exact hc rfl
    · rintro rfl
      exact hc rfl

end Text

/-! ### What JSON values are read as -/

mutual

/-- **What a JSON value is read as in YAML**: a number that is not whole has to have a point there,
and without one it is taken for a text. -/
def Value.asYaml : Value → Value
  | .float d => if d.chars.contains '.' then .float d else .str (String.ofList d.chars)
  | .list items => .list (Value.asYamlItems items)
  | .obj es => .obj (Value.asYamlEntries es)
  | v => v

/-- What the items of a list are read as. -/
def Value.asYamlItems : List Value → List Value
  | [] => []
  | v :: vs => v.asYaml :: Value.asYamlItems vs

/-- What the entries of an object are read as. -/
def Value.asYamlEntries : List (Key × Value) → List (Key × Value)
  | [] => []
  | (k, v) :: es => (k, v.asYaml) :: Value.asYamlEntries es

end

theorem Value.isNull_asYaml (v : Value) : v.asYaml.isNull = v.isNull := by
  cases v with
  | float d =>
    rw [asYaml]
    split <;> rfl
  | _ => rfl

theorem Value.keys_asYamlEntries (es : Entries Value) :
    Entries.keys (Value.asYamlEntries es) = Entries.keys es := by
  induction es with
  | nil => rfl
  | cons e es ih =>
    obtain ⟨k, v⟩ := e
    exact congrArg (k :: ·) ih

namespace Yaml

open Json (intChars floatChars boolChars keyText IsSigned)
open Number (numeralAlphabet)

/-! ### The tags of numbers -/

/-- A point in time begins with the digits of a year and a hyphen. -/
theorem Timestamp.ofSpelling?_eq_none {cs : List Char}
    (h : ∀ year rest, year ≠ [] → (∀ c ∈ year, Number.isDigit c = true) → cs ≠ year ++ '-' :: rest) :
    ofSpelling? cs = none := by
  set year := (cs.take 4).takeWhile Char.isDigit with hyear
  have happend : year ++ cs.drop year.length = cs :=
    List.prefix_iff_eq_append.mp ((List.takeWhile_prefix _).trans (List.take_prefix 4 cs))
  by_cases hlength : year.length < 4
  · have hnumber : number? 4 4 cs = none := by
      rw [number?, Tag.digits?, ← hyear]
      simp [hlength]
    rw [ofSpelling?, hnumber]
    rfl
  · have hnumber : number? 4 4 cs = some (Number.digitsValue year, cs.drop year.length) := by
      rw [number?, Tag.digits?, ← hyear]
      simp [hlength]
    have hmark : mark? '-' (cs.drop year.length) = none := by
      cases hdrop : cs.drop year.length with
      | nil => rfl
      | cons c rest =>
        rw [mark?, if_neg]
        rintro rfl
        refine h year rest ?_ (fun c hc => List.mem_takeWhile_imp hc) (hdrop ▸ happend.symm)
        rintro hnil
        rw [hnil] at hlength
        exact hlength (by decide)
    rw [ofSpelling?, hnumber]
    simp [hmark]

namespace Tag

theorem cut?_eq_none {mark : Char} {cs : List Char} (h : ∀ c ∈ cs, c ≠ mark) :
    cut? mark cs = none := by
  have hdrop : cs.dropWhile (· != mark) = [] :=
    List.dropWhile_eq_nil_iff.mpr fun c hc => bne_iff_ne.mpr (h c hc)
  rw [cut?, hdrop]

theorem cut?_append {mark : Char} {cs rest : List Char} (h : ∀ c ∈ cs, c ≠ mark) :
    cut? mark (cs ++ mark :: rest) = some (cs, rest) := by
  have hcs : ∀ c ∈ cs, (c != mark) = true := fun c hc => bne_iff_ne.mpr (h c hc)
  rw [cut?, List.dropWhile_append_of_pos hcs, List.dropWhile_cons_of_neg (by simp),
    List.takeWhile_append_of_pos hcs, List.takeWhile_cons_of_neg (by simp), List.append_nil]

theorem isDigits_of_isDigit {cs : List Char} (hne : cs ≠ [])
    (h : ∀ c ∈ cs, Number.isDigit c = true) : isDigits cs = true := by
  obtain ⟨c, cs, rfl⟩ := List.exists_cons_of_ne_nil hne
  obtain ⟨hc, hcs⟩ := List.forall_mem_cons.mp h
  rw [isDigits, Bool.and_eq_true, List.all_eq_true]
  refine ⟨hc, fun d hd => ?_⟩
  rw [isDigitOrBar, Bool.or_eq_true]
  exact .inl (hcs d hd)

section Signed

variable {neg : Bool} {body cs : List Char}

theorem dropSign_of_isSigned (h : IsSigned neg body cs) : dropSign cs = body := by
  obtain ⟨rfl, c, hhead, hc⟩ := h
  obtain ⟨tail, rfl⟩ := List.head?_eq_some_iff.mp hhead
  cases neg with
  | true => rfl
  | false =>
    change dropSign (c :: tail) = c :: tail
    rw [dropSign]
    · rintro rest ⟨rfl, -⟩
      exact absurd hc (by decide)
    · rintro rest ⟨rfl, -⟩
      exact absurd hc (by decide)

/-- A word without digits is no number. -/
theorem ne_of_isSigned (h : IsSigned neg body cs) {word : String}
    (hword : ∀ c ∈ word.toList, Number.isDigit c = false) : String.ofList cs ≠ word := by
  obtain ⟨rfl, c, hhead, hc⟩ := h
  obtain ⟨tail, rfl⟩ := List.head?_eq_some_iff.mp hhead
  rintro rfl
  have hfalse := hword c (by simp)
  rw [hc] at hfalse
  cases hfalse

theorem contains_of_isSigned (h : IsSigned neg body cs) {words : List String}
    (hwords : ∀ word ∈ words, ∀ c ∈ word.toList, Number.isDigit c = false) :
    words.contains (String.ofList cs) = false := by
  rw [Bool.eq_false_iff, ne_eq, List.contains_iff_mem]
  exact fun hmem => ne_of_isSigned h (hwords _ hmem) rfl

theorem truthWords_of_isSigned (h : IsSigned neg body cs) :
    truthWords.contains (String.ofList cs) = false :=
  contains_of_isSigned h (by simp [truthWords, Number.isDigit])

end Signed

/-- **An integer is spelled like one.** -/
theorem ofSpelling_intChars (k : ℤ) : ofSpelling (String.ofList (intChars k)) = .int := by
  have hdigits : ∀ c ∈ Nat.toDigits 10 k.natAbs, Number.isDigit c = true := fun c hc =>
    Number.isDigit_of_mem_toDigits hc
  have halphabet : ∀ c ∈ Nat.toDigits 10 k.natAbs, c ∈ numeralAlphabet := fun c hc =>
    Number.mem_numeralAlphabet_of_isDigit (hdigits c hc)
  have hpoint : ∀ c ∈ Nat.toDigits 10 k.natAbs, c ≠ '.' := by
    rintro c hc rfl
    exact absurd (hdigits _ hc) (by decide)
  have hpointed : isPointed (intChars k) = false := by
    rw [isPointed, dropSign_of_isSigned (Json.isSigned_intChars k), cut?_eq_none hpoint]
  have hnatural : isNatural (Nat.toDigits 10 k.natAbs) = true := by
    rcases Nat.eq_zero_or_pos k.natAbs with hzero | hpos
    · rw [hzero]
      rfl
    · have hne : ∀ rest, Nat.toDigits 10 k.natAbs ≠ '0' :: rest := by
        intro rest heq
        exact absurd (congrArg List.head? heq) (Number.head?_toDigits hpos)
      rw [isNatural, Text.split_eq_self (Number.ne_of_mem_numeralAlphabet halphabet (by decide))]
      · exact Bool.and_eq_true_iff.mpr
          ⟨isDigits_of_isDigit Nat.toDigits_ne_nil hdigits, rfl⟩
      · exact fun _ _ => hne _
      · exact fun _ _ => hne _
      · exact fun _ => hne _
  rw [ofSpelling, String.toList_ofList, truthWords_of_isSigned (Json.isSigned_intChars k), hpointed,
    dropSign_of_isSigned (Json.isSigned_intChars k), hnatural]
  rfl

/-- The exponent of a numeral is spelled like one. -/
theorem isExponent_exponentChars {e : Option (Bool × List Char)}
    (h : ∀ neg digits, e = some (neg, digits) →
      digits ≠ [] ∧ ∀ c ∈ digits, Number.isDigit c = true) :
    isExponent (Numeral.exponentChars e) = true := by
  rcases e with _ | ⟨neg, digits⟩
  · rfl
  · obtain ⟨hne, hdigits⟩ := h neg digits rfl
    obtain ⟨c, cs, rfl⟩ := List.exists_cons_of_ne_nil hne
    have hall : (c :: cs).all Char.isDigit = true := List.all_eq_true.mpr hdigits
    cases neg <;> simp only [Numeral.exponentChars, isExponent, hall] <;> rfl

/-- **A number with a point is spelled like a floating-point number.** -/
theorem ofSpelling_numeral {n : Numeral} {neg : Bool} {cs : List Char} (hn : n.WellFormed)
    (hfraction : n.fraction ≠ []) (h : IsSigned neg n.chars cs) :
    ofSpelling (String.ofList cs) = .float := by
  have hpoint : ∀ c ∈ n.whole, c ≠ '.' := by
    rintro c hc rfl
    exact absurd (hn.isDigit_whole _ hc) (by decide)
  have hcolon : ∀ c ∈ n.whole, c ≠ ':' := by
    rintro c hc rfl
    exact absurd (hn.isDigit_whole _ hc) (by decide)
  have hchars : n.chars = n.whole ++ '.' :: (n.fraction ++ Numeral.exponentChars n.exponent) := by
    rw [Numeral.chars, if_neg hfraction, List.cons_append]
  have hdigits : ∀ c ∈ n.fraction, isDigitOrBar c = true := fun c hc =>
    Bool.or_eq_true_iff.mpr (.inl (hn.isDigit_fraction c hc))
  have hfraction' : isFraction (n.fraction ++ Numeral.exponentChars n.exponent) = true := by
    have hexponent : (Numeral.exponentChars n.exponent).dropWhile isDigitOrBar =
        Numeral.exponentChars n.exponent := by
      cases n.exponent <;> rfl
    rw [isFraction, List.dropWhile_append_of_pos hdigits, hexponent]
    exact isExponent_exponentChars hn.isDigit_exponent
  obtain ⟨c, tail, hcons⟩ := List.exists_cons_of_ne_nil hn.whole_ne_nil
  have hwhole := isDigits_of_isDigit hn.whole_ne_nil hn.isDigit_whole
  have hpointed : isPointed cs = true := by
    rw [isPointed, dropSign_of_isSigned h, hchars, cut?_append hpoint, hcons]
    simp only []
    rw [← hcons, Text.split_eq_self hcolon]
    exact Bool.and_eq_true_iff.mpr ⟨hwhole, hfraction'⟩
  rw [ofSpelling, String.toList_ofList, truthWords_of_isSigned h, hpointed]
  rfl

/-- A numeral with an exponent but without a point is not spelled like an integer. -/
theorem isNatural_chars {n : Numeral} (hn : n.WellFormed) (he : 'e' ∈ n.chars) :
    isNatural n.chars = false := by
  have halphabet : ∀ c ∈ n.chars, c ∈ numeralAlphabet := fun c hc => Number.mem_numeralAlphabet hn hc
  have hcolon := Number.ne_of_mem_numeralAlphabet halphabet (d := ':') (by decide)
  unfold isNatural
  rw [Text.split_eq_self hcolon]
  split
  · next heq =>
    rw [heq] at halphabet
    exact absurd (halphabet 'b' (by simp)) (by decide)
  · next heq =>
    rw [heq] at halphabet
    exact absurd (halphabet 'x' (by simp)) (by decide)
  · next heq =>
    rw [heq] at he
    refine List.all_eq_false.mpr ⟨'e', (List.mem_cons.mp he).resolve_left (by decide), by decide⟩
  · cases hchars : n.chars with
    | nil => rfl
    | cons c cs =>
      rw [hchars] at he
      rcases List.mem_cons.mp he with rfl | he
      · rfl
      · have hall : cs.all isDigitOrBar = false := List.all_eq_false.mpr ⟨'e', he, by decide⟩
        simp [isDigits, hall]

/-- **A number without a point is spelled like a text.** Its exponent keeps it from being an
integer. -/
theorem ofSpelling_whole {n : Numeral} {neg : Bool} {cs : List Char} (hn : n.WellFormed)
    (hfraction : n.fraction = []) (hexponent : n.exponent ≠ none) (h : IsSigned neg n.chars cs) :
    ofSpelling (String.ofList cs) = .text := by
  obtain ⟨⟨eneg, digits⟩, he⟩ := Option.ne_none_iff_exists'.mp hexponent
  have hchars : n.chars = n.whole ++ 'e' :: (if eneg then '-' else '+') :: digits := by
    rw [Numeral.chars, if_pos hfraction, he]
    rfl
  have hpoint : ∀ c ∈ n.chars, c ≠ '.' := by
    rintro c hc rfl
    exact hn.fraction_ne_nil hc hfraction
  have hpointed : isPointed cs = false := by
    rw [isPointed, dropSign_of_isSigned h, cut?_eq_none hpoint]
  have hnatural : isNatural n.chars = false := isNatural_chars hn (by simp [hchars])
  have hmerge : String.ofList cs ≠ "<<" := ne_of_isSigned h (by simp [Number.isDigit])
  have hdefault : String.ofList cs ≠ "=" := ne_of_isSigned h (by simp [Number.isDigit])
  have hnull : nullWords.contains (String.ofList cs) = false :=
    contains_of_isSigned h (by simp [nullWords, Number.isDigit])
  -- The digits in front are followed by an exponent, and those of a year by a hyphen.
  have htime : Timestamp.ofSpelling? cs = none := by
    refine Timestamp.ofSpelling?_eq_none fun year rest hne hyear heq => ?_
    rw [h.eq] at heq
    cases neg with
    | true =>
      obtain ⟨c, cs, rfl⟩ := List.exists_cons_of_ne_nil hne
      obtain rfl : '-' = c := (List.cons.inj heq).1
      exact absurd (hyear '-' List.mem_cons_self) (by decide)
    | false =>
      have heq' : n.whole ++ 'e' :: (if eneg then '-' else '+') :: digits = year ++ '-' :: rest :=
        hchars ▸ heq
      have hdrop := congrArg (List.dropWhile Number.isDigit) heq'
      rw [(dropWhile_isDigit_append hn.isDigit_whole (by simp [Number.isDigit])).2,
        (dropWhile_isDigit_append hyear (by simp [Number.isDigit])).2] at hdrop
      exact absurd (List.cons.inj hdrop).1 (by decide)
  simp only [ofSpelling, String.toList_ofList, truthWords_of_isSigned h, hpointed,
    dropSign_of_isSigned h, hnatural, hmerge, hnull, htime, hdefault, Option.isSome_none,
    Bool.false_eq_true, reduceIte]

end Tag

/-! ### The values of numbers -/

section Signed

variable {neg : Bool} {body cs : List Char}

theorem signed_of_isSigned (h : IsSigned neg body cs) : signed cs = .ok (neg, body) := by
  have hbody := Tag.dropSign_of_isSigned h
  obtain ⟨rfl, c, hhead, hc⟩ := h
  obtain ⟨tail, rfl⟩ := List.head?_eq_some_iff.mp hhead
  cases neg with
  | true => rfl
  | false =>
    have hne : c ≠ '-' := by
      rintro rfl
      exact absurd hc (by decide)
    simp only [Bool.false_eq_true, reduceIte, List.nil_append] at hbody ⊢
    rw [signed, hbody]
    · simp [hne]
      rfl
    · simp

theorem mem_numeralAlphabet_of_isSigned (h : IsSigned neg body cs)
    (hbody : ∀ c ∈ body, c ∈ numeralAlphabet) : ∀ c ∈ cs, c ∈ numeralAlphabet := by
  rw [h.eq]
  cases neg
  · exact hbody
  · exact List.forall_mem_cons.mpr ⟨by decide, hbody⟩

/-- No character of a number is left out. -/
theorem filter_of_isSigned (h : IsSigned neg body cs) (hbody : ∀ c ∈ body, c ∈ numeralAlphabet) :
    cs.filter (· != '_') = cs :=
  List.filter_eq_self.mpr fun c hc => bne_iff_ne.mpr
    (Number.ne_of_mem_numeralAlphabet (mem_numeralAlphabet_of_isSigned h hbody) (by decide) c hc)

end Signed

/-- **An integer has the value that it was written for.** -/
theorem integer_intChars {k : ℤ} (hk : isWritableInt k = true) :
    integer (String.ofList (intChars k)) = .ok k := by
  have hdigits : ∀ c ∈ Nat.toDigits 10 k.natAbs, Number.isDigit c = true := fun c hc =>
    Number.isDigit_of_mem_toDigits hc
  have halphabet : ∀ c ∈ Nat.toDigits 10 k.natAbs, c ∈ numeralAlphabet := fun c hc =>
    Number.mem_numeralAlphabet_of_isDigit (hdigits c hc)
  have hsigned := Json.isSigned_intChars k
  have hlength : (Nat.toDigits 10 k.natAbs).length ≤ Number.maxIntDigits :=
    Number.length_toDigits_le (by decide) (of_decide_eq_true hk)
  have hcolon : (Nat.toDigits 10 k.natAbs).contains ':' = false := by
    rw [Bool.eq_false_iff, ne_eq, List.contains_iff_mem]
    intro hmem
    exact absurd (hdigits _ hmem) (by decide)
  have hdecimal : decimal (Nat.toDigits 10 k.natAbs) = .ok k.natAbs := by
    rw [decimal, Number.readInt?_toDigits hlength]
    rfl
  rcases Nat.eq_zero_or_pos k.natAbs with hzero | hpos
  · obtain rfl : k = 0 := Int.natAbs_eq_zero.mp hzero
    rfl
  have hne : ∀ rest, Nat.toDigits 10 k.natAbs ≠ '0' :: rest := by
    intro rest heq
    exact absurd (congrArg List.head? heq) (Number.head?_toDigits hpos)
  rw [integer, String.toList_ofList, filter_of_isSigned hsigned halphabet, signed_of_isSigned hsigned]
  simp only [bind, Except.bind]
  split
  · next heq => exact absurd heq Nat.toDigits_ne_nil
  · next heq => exact absurd heq (hne _)
  · next heq => exact absurd heq (hne _)
  · next heq => exact absurd heq (hne _)
  · next heq => exact absurd heq (hne _)
  · simp only [hcolon, Bool.false_eq_true, reduceIte, hdecimal]
    exact congrArg Except.ok (Json.signed_natAbs k)

/-- **A number with a point has the value that it was written for.** -/
theorem floating_numeral {n : Numeral} {neg : Bool} {cs : List Char} (hn : n.WellFormed)
    (h : IsSigned neg n.chars cs) :
    floating (String.ofList cs) = .ok (Double.ofDecimal neg n.coefficient n.scale) := by
  have hbody : ∀ c ∈ n.chars, c ∈ numeralAlphabet := fun c hc => Number.mem_numeralAlphabet hn hc
  have hcs := mem_numeralAlphabet_of_isSigned h hbody
  have hcolon : n.chars.contains ':' = false := by
    rw [Bool.eq_false_iff, ne_eq, List.contains_iff_mem]
    intro hmem
    exact absurd (hbody _ hmem) (by decide)
  obtain ⟨c, hhead, hc⟩ := h.head
  have hword : ∀ w : List Char, w.head? = some '.' → String.ofList n.chars ≠ String.ofList w := by
    rintro w hw heq
    obtain rfl := String.ofList_injective heq
    obtain rfl := Option.some.inj (hhead.symm.trans hw)
    exact absurd hc (by decide)
  have hinf : String.ofList n.chars ≠ ".inf" := hword ['.', 'i', 'n', 'f'] rfl
  have hnan : String.ofList n.chars ≠ ".nan" := hword ['.', 'n', 'a', 'n'] rfl
  rw [floating, String.toList_ofList, filter_of_isSigned h hbody, Number.map_toLower_eq_self hcs,
    signed_of_isSigned h]
  have hpointed : pointed n.chars = .ok (Double.ofDecimal false n.coefficient n.scale) := by
    rw [pointed, Number.readDouble?_numeral hn]
    rfl
  change (if String.ofList n.chars = ".inf" then _ else _) = _
  rw [if_neg hinf, if_neg hnan]
  simp only [hcolon, Bool.false_eq_true, reduceIte, hpointed, bind, Except.bind, pure, Except.pure]
  cases neg with
  | true => rw [if_pos rfl, Double.ofDecimal_true]
  | false => rw [if_neg Bool.false_ne_true]

/-! ### The values of nodes -/

theorem value_null : (Node.ofValue .null).value = .ok .null := by
  rw [Node.ofValue, Node.plain, Node.value]
  rfl

theorem value_bool (b : Bool) : (Node.ofValue (.bool b)).value = .ok (.bool b) := by
  rw [Node.ofValue, Node.plain, Node.value]
  cases b <;> cbv

theorem value_int {k : ℤ} (hk : isWritableInt k = true) :
    (Node.ofValue (.int k)).value = .ok (.int k) := by
  rw [Node.ofValue, Node.plain, Node.value, Tag.ofSpelling_intChars, scalarValue, integer_intChars hk]
  rfl

/-- **A number is read as a number** if it has a point, and otherwise as its text. -/
theorem value_float {d : Double} (hd : d.isFinite = true) :
    (Node.ofValue (.float d)).value = .ok (Value.float d).asYaml := by
  obtain ⟨n, hn, hpointed, hsigned, hvalue⟩ := Json.exists_isSigned_floatChars hd
  rw [Node.ofValue, Node.plain, Node.value, Value.asYaml, ← Json.floatChars_eq_chars hd]
  split
  next hpoint =>
    have hfraction : n.fraction ≠ [] := by
      refine hn.fraction_ne_nil ?_
      have hmem := List.contains_iff_mem.mp hpoint
      rw [hsigned.eq, List.mem_append] at hmem
      refine hmem.resolve_left fun hsign => ?_
      split at hsign <;> simp at hsign
    rw [Tag.ofSpelling_numeral hn hfraction hsigned, scalarValue, floating_numeral hn hsigned, hvalue]
    rfl
  next hpoint =>
    have hfraction : n.fraction = [] := by
      by_contra hne
      refine hpoint (List.contains_iff_mem.mpr ?_)
      rw [hsigned.eq, Numeral.chars, if_neg hne]
      simp
    rw [Tag.ofSpelling_whole hn hfraction (hpointed.resolve_left fun h => h hfraction) hsigned]
    rfl

theorem values_ofValues {items : List Value}
    (h : ∀ v ∈ items, (Node.ofValue v).value = .ok v.asYaml) :
    Node.values (Node.ofValues items) = .ok (Value.asYamlItems items) := by
  induction items with
  | nil =>
    rw [Node.ofValues, Node.values]
    rfl
  | cons v vs ih =>
    obtain ⟨hv, hvs⟩ := List.forall_mem_cons.mp h
    rw [Node.ofValues, Node.values, hv, ih hvs]
    rfl

/-- A key is never one that takes over the entries of others. -/
theorem inherited_ofEntries (es : List (Key × Value)) :
    Node.inherited (Node.ofEntries es) = .ok [] := by
  induction es with
  | nil =>
    rw [Node.ofEntries, Node.inherited]
    rfl
  | cons e es ih =>
    obtain ⟨k, v⟩ := e
    rw [Node.ofEntries, Node.inherited, if_neg (by simp [Node.tag])]
    exact ih

theorem owned_ofEntries {es : List (Key × Value)} (hkeys : ∀ e ∈ es, ∃ s, e.1 = .str s)
    (h : ∀ e ∈ es, (Node.ofValue e.2).value = .ok e.2.asYaml) :
    Node.owned (Node.ofEntries es) = .ok (Value.asYamlEntries es) := by
  induction es with
  | nil =>
    rw [Node.ofEntries, Node.owned]
    rfl
  | cons e es ih =>
    obtain ⟨k, v⟩ := e
    obtain ⟨⟨s, hs⟩, hrest⟩ := List.forall_mem_cons.mp hkeys
    obtain ⟨hv, hes⟩ := List.forall_mem_cons.mp h
    obtain rfl : k = .str s := hs
    have hv' : (Node.ofValue v).value = .ok v.asYaml := hv
    have hkey : (Node.scalar .text s).value = .ok (.str s) := by
      rw [Node.value]
      rfl
    rw [Node.ofEntries, Node.owned, if_neg (by simp [Node.tag])]
    simp only [keyText, hkey, hv', ih hrest hes]
    rfl

/-- **The node of a JSON value stands for what the value is read as.** -/
theorem value_ofValue {v : Value} (hjson : v.IsJson) (hkept : v.keptByYaml = true) :
    (Node.ofValue v).value = .ok v.asYaml := by
  induction hjson with
  | null => exact value_null
  | bool b => exact value_bool b
  | int k => exact value_int hkept
  | float hd => exact value_float hd
  | str s =>
    rw [Node.ofValue, Node.value]
    rfl
  | @list items _ ih =>
    have hitems := values_ofValues fun v hv => ih v hv (Value.areKeptByYaml_iff.mp hkept v hv)
    rw [Node.ofValue, Node.value, hitems]
    rfl
  | @obj es hkeys hnodup _ ih =>
    have howned := owned_ofEntries (fun e he => hkeys e.1 (List.mem_map_of_mem he)) fun e he =>
      ih e he (Value.areEntriesKeptByYaml_iff.mp hkept e he).2
    have hmembers : Node.members (Node.ofEntries es) = .ok (Value.asYamlEntries es) := by
      rw [Node.members, inherited_ofEntries, howned]
      rfl
    rw [← Value.keys_asYamlEntries] at hkeys hnodup
    rw [Node.ofValue, Node.value, hmembers]
    exact congrArg (Except.ok ∘ Value.obj) (Entries.ofList_eq_self hkeys hnodup)

/-! ### The round trip -/

/-- **The JSON text of an object is read as that object**, but for numbers without a point, if its
texts are kept. -/
theorem read_print {es : Entries Value} (hjson : (Value.obj es).IsJson)
    (hkept : (Value.obj es).keptByYaml = true) :
    read (Json.print .indented (.obj es)) = .ok (Value.obj es).asYaml := by
  rw [read, Json.print, String.toList_ofList, tokens_print hjson hkept]
  change (Node.ofTokens? (tokensOf (.obj es)) >>= Node.value) = _
  rw [Node.ofTokens?_tokensOf hjson]
  exact value_ofValue hjson hkept

end Yaml

end WizardLogic
