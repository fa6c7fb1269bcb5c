import Mathlib
import WizardLogic.Proofs.Json.RoundTrip
import WizardLogic.Proofs.Yaml.Tokens

/-!
# The tokens of a JSON value

The tokens of a value (`Yaml.tokensOf`) are what the scanner reads of its indented text
(`Yaml.tokens_print`). The proof is an induction on the value. What it says of a part of a text is
that scanning goes on from one place at another (`Step.LeadsTo`), because the number of iterations
does not matter as long as there are enough; and since a plain scalar takes the white space behind it
along, that the place is in front of the white space that is left (`Step.ScansAs`).

The texts and keys of the value have to be kept (`Value.keptByYaml`). The text of such a value has only
characters that can stand in YAML, and no carriage return, which a file does not keep
(`Yaml.isSteady_write`).
-/

namespace WizardLogic

/-! ### Values that are kept -/

/-- Whether a key is read in YAML as it is written in JSON. -/
def Key.keptByYaml : Key → Bool
  | .str s => Yaml.Step.keepsKey s
  | _ => false

mutual

/-- **Whether nothing but numbers without a point changes when a JSON value is read in YAML**: integers
have no more digits than are read, and the texts and keys are kept. -/
def Value.keptByYaml : Value → Bool
  | .int n => isWritableInt n
  | .str s => Yaml.Scan.keepsText s
  | .list items => Value.areKeptByYaml items
  | .obj es => Value.areEntriesKeptByYaml es
  | _ => true

/-- Whether all values of a list are kept. -/
def Value.areKeptByYaml : List Value → Bool
  | [] => true
  | v :: vs => v.keptByYaml && Value.areKeptByYaml vs

/-- Whether all entries of an object are kept. -/
def Value.areEntriesKeptByYaml : List (Key × Value) → Bool
  | [] => true
  | (k, v) :: es => k.keptByYaml && v.keptByYaml && Value.areEntriesKeptByYaml es

end

theorem Value.areKeptByYaml_iff {items : List Value} :
    Value.areKeptByYaml items = true ↔ ∀ v ∈ items, v.keptByYaml = true := by
  induction items with
  | nil => simp [Value.areKeptByYaml]
  | cons v vs ih => simp [Value.areKeptByYaml, ih]

theorem Value.areEntriesKeptByYaml_iff {es : List (Key × Value)} :
    Value.areEntriesKeptByYaml es = true ↔
      ∀ e ∈ es, e.1.keptByYaml = true ∧ e.2.keptByYaml = true := by
  induction es with
  | nil => simp [Value.areEntriesKeptByYaml]
  | cons e es ih => simp [Value.areEntriesKeptByYaml, ih, and_assoc]

namespace Yaml

open Json (quote Style intChars floatChars boolChars keyText IsSigned)

/-! ### The tokens of a value -/

mutual

/-- The tokens of a value. -/
def tokensOf : Value → List Token
  | .null => [.scalar "null" true]
  | .bool b => [.scalar (String.ofList (boolChars b)) true]
  | .int n => [.scalar (String.ofList (intChars n)) true]
  | .float d => [.scalar (String.ofList (floatChars d)) true]
  | .str s => [.scalar s false]
  | .list [] => [.flowSequenceStart, .flowSequenceEnd]
  | .list (v :: vs) =>
    .flowSequenceStart :: (tokensOf v ++ (tokensOfItems vs ++ [.flowSequenceEnd]))
  | .obj [] => [.flowMappingStart, .flowMappingEnd]
  | .obj ((k, v) :: es) =>
    .flowMappingStart :: .key :: .scalar (keyText k) false :: .value ::
      (tokensOf v ++ (tokensOfEntries es ++ [.flowMappingEnd]))

/-- The tokens of the items of a list after the first. -/
def tokensOfItems : List Value → List Token
  | [] => []
  | v :: vs => .flowEntry :: (tokensOf v ++ tokensOfItems vs)

/-- The tokens of the entries of an object after the first. -/
def tokensOfEntries : List (Key × Value) → List Token
  | [] => []
  | (k, v) :: es =>
    .flowEntry :: .key :: .scalar (keyText k) false :: .value :: (tokensOf v ++ tokensOfEntries es)

end

/-! ### Words -/

theorem isBareWordChar_of_isDigit {ch : Char} (h : Number.isDigit ch = true) :
    ch.isAlphanum = true ∧ Scan.isBareWordChar ch = true := by
  have hdigit : ch.isAlphanum = true := by
    rw [Char.isAlphanum, Bool.or_eq_true]
    exact .inr (by rwa [← Number.isDigit_eq])
  exact ⟨hdigit, by simp [Scan.isBareWordChar, hdigit]⟩

/-- A number with its sign is a word. -/
theorem isWord_of_isSigned {neg : Bool} {body cs : List Char} (h : IsSigned neg body cs)
    (hbody : ∀ ch ∈ body, Scan.isBareWordChar ch = true) : Step.IsWord cs := by
  obtain ⟨rfl, ch, hhead, hch⟩ := h
  obtain ⟨tail, rfl⟩ := List.head?_eq_some_iff.mp hhead
  have halnum := (isBareWordChar_of_isDigit hch).1
  cases neg
  · exact ⟨hbody, ch, tail, rfl, .inl halnum⟩
  · exact ⟨List.forall_mem_cons.mpr ⟨rfl, hbody⟩, '-', ch :: tail, rfl,
      .inr ⟨rfl, ch, tail, rfl, halnum⟩⟩

theorem isWord_intChars (n : ℤ) : Step.IsWord (intChars n) :=
  isWord_of_isSigned (Json.isSigned_intChars n) fun _ hch =>
    (isBareWordChar_of_isDigit (Number.isDigit_of_mem_toDigits hch)).2

theorem isWord_numeral {neg : Bool} {n : Numeral} {cs : List Char} (hn : n.WellFormed)
    (h : IsSigned neg n.chars cs) : Step.IsWord cs := by
  have hbare : ∀ ch ∈ Number.numeralAlphabet, Scan.isBareWordChar ch = true := by
    simp [Number.numeralAlphabet, Scan.isBareWordChar]
  exact isWord_of_isSigned h fun ch hch => hbare ch (Number.mem_numeralAlphabet hn hch)

/-! ### Scanning -/

namespace Step

variable {s s' : Scanner} {flow : ℕ} {rest : List Char} {ts : List Token}

/-- Whether scanning goes on from one place at another, with enough fuel for the characters that are
left. -/
def LeadsTo (s s' : Scanner) : Prop :=
  ∀ n, s.cursor.rest.length < n → ∃ n', s'.cursor.rest.length < n' ∧ run n s = run n' s'

theorem LeadsTo.trans {s'' : Scanner} (h : LeadsTo s s') (h' : LeadsTo s' s'') : LeadsTo s s'' :=
  fun n hn => by
    obtain ⟨n', hn', heq⟩ := h n hn
    obtain ⟨n'', hn'', heq'⟩ := h' n' hn'
    exact ⟨n'', hn'', heq.trans heq'⟩

/-- So many steps lead on if each has a character of its own. -/
theorem LeadsTo.of_run {k : ℕ} (h : ∀ n, run (n + k) s = run n s')
    (hlength : s'.cursor.rest.length + k ≤ s.cursor.rest.length) : LeadsTo s s' := fun n hn => by
  obtain ⟨m, rfl⟩ : ∃ m, n = m + k := ⟨n - k, by omega⟩
  exact ⟨m, by omega, h m⟩

/-- One token leads on. -/
theorem LeadsTo.of_token {space : List Char} {ch : Char} {rest' : List Char} {ts' : List Token}
    {flow' : ℕ} (h : Stands s (flow + 1) (space ++ ch :: rest) ts) (hspace : IsBlank space)
    (hch : startsToken ch = true) (htoken : token ch (atToken s space.length) = .ok ((), s'))
    (h' : Stands s' flow' rest' ts') (hrest : rest'.length ≤ rest.length) : LeadsTo s s' := by
  refine .of_run (k := 1) (fun n => ?_) ?_
  · rw [run_inBrackets n h hspace hch, Stateful.bind_of_ok htoken]
  · rw [h.rest, h'.rest]
    simp
    omega

theorem leadsTo_comma {space : List Char} (h : Stands s (flow + 1) (space ++ ',' :: rest) ts)
    (hspace : IsBlank space) : ∃ s', LeadsTo s s' ∧
      Stands s' (flow + 1) rest (ts ++ [.flowEntry]) ∧ s'.keyAllowed = true := by
  obtain ⟨s', hrun, h', hkey⟩ := flowEntry_run h.atToken
  exact ⟨s', .of_token h hspace rfl ((token_comma _).trans hrun) h' le_rfl, h', hkey⟩

theorem leadsTo_open {space : List Char} {ch : Char} {t : Token}
    (htoken : ∀ s, token ch s = openFlow t s) (hch : startsToken ch = true)
    (h : Stands s (flow + 1) (space ++ ch :: rest) ts) (hspace : IsBlank space) :
    ∃ s', LeadsTo s s' ∧ Stands s' (flow + 1 + 1) rest (ts ++ [t]) ∧ s'.keyAllowed = true := by
  obtain ⟨s', hrun, h', hkey⟩ := openFlow_run h.atToken
    (candidate_optional (by rw [h.atToken.flow]; exact Nat.succ_ne_zero _)) t
  exact ⟨s', .of_token h hspace hch ((htoken _).trans hrun) h' le_rfl, h', hkey⟩

theorem leadsTo_close {space : List Char} {ch : Char} {t : Token}
    (htoken : ∀ s, token ch s = closeFlow t s) (hch : startsToken ch = true)
    (h : Stands s (flow + 1) (space ++ ch :: rest) ts) (hspace : IsBlank space) :
    ∃ s', LeadsTo s s' ∧ Stands s' flow rest (ts ++ [t]) := by
  obtain ⟨s', hrun, h'⟩ := closeFlow_run h.atToken t
  exact ⟨s', .of_token h hspace hch ((htoken _).trans hrun) h' le_rfl, h'⟩

theorem leadsTo_quote {space : List Char} {text : String}
    (h : Stands s (flow + 1) (space ++ (quote false text ++ rest)) ts) (hspace : IsBlank space)
    (htext : Scan.keepsText text = true) : ∃ s', LeadsTo s s' ∧
      Stands s' (flow + 1) rest (ts ++ [.scalar text false]) := by
  have hat := h.atToken
  have hnoted := Stands.noted hat (candidate_optional (by rw [hat.flow]; exact Nat.succ_ne_zero _))
  have h' := Stands.found hnoted (flow + 1) false (.scalar text false)
  refine ⟨_, ?_, h'⟩
  have hquote : quote false text ++ rest =
      '"' :: (text.toList.flatMap (Json.escapeChar false) ++ ['"'] ++ rest) := rfl
  rw [hquote] at h
  exact .of_token h hspace rfl ((token_quote _).trans (nodeToken_quote hat htext)) h' (by simp; omega)

theorem leadsTo_word {space word gap : List Char} {ch : Char}
    (h : Stands s (flow + 1) (space ++ (word ++ (gap ++ ch :: rest))) ts) (hspace : IsBlank space)
    (hword : IsWord word) (hgap : Scan.IsGap gap) (hch : Scan.closesItem ch = true) :
    ∃ s', LeadsTo s s' ∧
      Stands s' (flow + 1) (ch :: rest) (ts ++ [.scalar (String.ofList word) true]) := by
  obtain ⟨first, tail, hcons, -⟩ := hword.head
  have hhead : word.head? = some first := by rw [hcons]; rfl
  have hat := h.atToken
  have hne : word ≠ [] := by
    rw [hcons]
    exact List.cons_ne_nil _ _
  obtain ⟨s', hrun, h'⟩ := plainScalar_run hne hword.bare hgap hch hat
  refine ⟨s', ?_, h'⟩
  have htoken := (token_word hword hhead hat.rest).trans hrun
  have hstarts := startsToken_word hword hhead
  rw [hcons, List.cons_append] at h
  exact .of_token h hspace hstarts htoken h' (by simp; omega)

theorem leadsTo_key {space : List Char} {text : String}
    (h : Stands s (flow + 1) (space ++ (quote false text ++ ':' :: rest)) ts)
    (hallowed : s.keyAllowed = true) (hspace : IsBlank space) (hkey : keepsKey text = true) :
    ∃ s', LeadsTo s s' ∧
      Stands s' (flow + 1) rest (ts ++ [.key, .scalar text false, .value]) := by
  obtain ⟨s', hrun, h'⟩ := run_key h hallowed hspace hkey
  refine ⟨s', .of_run hrun ?_, h'⟩
  rw [h.rest, h'.rest]
  simp [quote]
  omega

/-! ### Values -/

theorem isBlank_of_isGap {gap : List Char} (h : Scan.IsGap gap) : IsBlank gap := by
  cases h with
  | none => exact .spaces 0
  | line k => exact .line k

/-- The line breaks of the indented style are followed by spaces. -/
theorem exists_lineBreak (depth : ℕ) :
    ∃ k, Style.indented.lineBreak depth = '\n' :: List.replicate k ' ' := by
  refine ⟨2 * depth, congrArg ('\n' :: ·) ?_⟩
  exact List.eq_replicate_iff.mpr ⟨by simp [Nat.mul_comm], by simp⟩

/-- Whether a value is scanned as its tokens, wherever it stands in brackets. What is behind it may be
white space in front of a mark, and some or all of the white space may be scanned with the value. -/
def ScansAs (v : Value) : Prop :=
  ∀ {s flow space depth gap ch rest ts},
    Stands s (flow + 1) (space ++ (Json.write .indented depth v ++ (gap ++ ch :: rest))) ts →
    IsBlank space → Scan.IsGap gap → Scan.closesItem ch = true →
    ∃ s' gap', LeadsTo s s' ∧ Scan.IsGap gap' ∧
      Stands s' (flow + 1) (gap' ++ ch :: rest) (ts ++ tokensOf v)

theorem scansAs_of_word {v : Value} {word : List Char} (hword : IsWord word)
    (hwrite : ∀ depth, Json.write .indented depth v = word)
    (htokens : tokensOf v = [.scalar (String.ofList word) true]) : ScansAs v := by
  intro s flow space depth gap ch rest ts h hspace hgap hch
  rw [hwrite] at h
  obtain ⟨s', hleads, h'⟩ := leadsTo_word h hspace hword hgap hch
  exact ⟨s', [], hleads, .none, htokens ▸ h'⟩

theorem scansAs_str {text : String} (htext : Scan.keepsText text = true) : ScansAs (.str text) := by
  intro s flow space depth gap ch rest ts h hspace hgap hch
  rw [Json.write] at h
  obtain ⟨s', hleads, h'⟩ := leadsTo_quote h hspace htext
  exact ⟨s', gap, hleads, hgap, by rwa [tokensOf]⟩

/-- **The items of a list** are scanned one after the other. -/
theorem leadsTo_items {v : Value} {vs : List Value} (hv : ScansAs v) (hvs : ∀ v ∈ vs, ScansAs v)
    {space gap : List Char} {depth : ℕ} {ch : Char}
    (h : Stands s (flow + 1) (space ++ (Json.write .indented depth v ++
      (Json.writeItems .indented depth vs ++ (gap ++ ch :: rest)))) ts)
    (hspace : IsBlank space) (hgap : Scan.IsGap gap) (hch : Scan.closesItem ch = true) :
    ∃ s' gap', LeadsTo s s' ∧ Scan.IsGap gap' ∧
      Stands s' (flow + 1) (gap' ++ ch :: rest) (ts ++ (tokensOf v ++ tokensOfItems vs)) := by
  induction vs generalizing v s ts space with
  | nil =>
    rw [tokensOfItems, List.append_nil]
    exact hv h hspace hgap hch
  | cons w vs ih =>
    obtain ⟨hw, hvs⟩ := List.forall_mem_cons.mp hvs
    obtain ⟨k, hk⟩ := exists_lineBreak depth
    have hitems : Json.writeItems .indented depth (w :: vs) ++ (gap ++ ch :: rest) =
        [] ++ ',' :: (('\n' :: List.replicate k ' ') ++ (Json.write .indented depth w ++
          (Json.writeItems .indented depth vs ++ (gap ++ ch :: rest)))) := by
      rw [Json.writeItems, hk]
      simp [Style.indented]
    rw [hitems] at h
    obtain ⟨s₁, gap₁, hleads₁, hgap₁, h₁⟩ := hv h hspace .none rfl
    obtain ⟨s₂, hleads₂, h₂, -⟩ := leadsTo_comma h₁ (isBlank_of_isGap hgap₁)
    obtain ⟨s', gap', hleads, hgap', h'⟩ := ih hw hvs h₂ (.line k)
    refine ⟨s', gap', hleads₁.trans (hleads₂.trans hleads), hgap', ?_⟩
    have htokens : ts ++ tokensOf v ++ [.flowEntry] ++ (tokensOf w ++ tokensOfItems vs) =
        ts ++ (tokensOf v ++ tokensOfItems (w :: vs)) := by
      simp [tokensOfItems]
    rwa [htokens] at h'

/-- **The entries of an object** are scanned one after the other. -/
theorem leadsTo_entries {k : String} {v : Value} {es : List (Key × Value)} (hk : keepsKey k = true)
    (hv : ScansAs v) (hes : ∀ e ∈ es, ∃ k, e.1 = .str k ∧ keepsKey k = true ∧ ScansAs e.2)
    {space gap : List Char} {depth : ℕ} {ch : Char}
    (h : Stands s (flow + 1) (space ++ (quote false k ++ ':' :: ([' '] ++
      (Json.write .indented depth v ++ (Json.writeEntries .indented depth es ++
        (gap ++ ch :: rest)))))) ts)
    (hallowed : s.keyAllowed = true) (hspace : IsBlank space) (hgap : Scan.IsGap gap)
    (hch : Scan.closesItem ch = true) :
    ∃ s' gap', LeadsTo s s' ∧ Scan.IsGap gap' ∧ Stands s' (flow + 1) (gap' ++ ch :: rest)
      (ts ++ (.key :: .scalar k false :: .value :: (tokensOf v ++ tokensOfEntries es))) := by
  induction es generalizing k v s ts space with
  | nil =>
    obtain ⟨s₁, hleads₁, h₁⟩ := leadsTo_key h hallowed hspace hk
    obtain ⟨s', gap', hleads, hgap', h'⟩ := hv h₁ (.spaces 1) hgap hch
    refine ⟨s', gap', hleads₁.trans hleads, hgap', ?_⟩
    rw [tokensOfEntries, List.append_nil]
    rwa [List.append_assoc] at h'
  | cons e es ih =>
    obtain ⟨key, w⟩ := e
    obtain ⟨⟨k', hkey, hk', hw⟩, hrest⟩ := List.forall_mem_cons.mp hes
    obtain rfl : key = .str k' := hkey
    obtain ⟨j, hj⟩ := exists_lineBreak depth
    have hentries : Json.writeEntries .indented depth ((.str k', w) :: es) ++ (gap ++ ch :: rest) =
        [] ++ ',' :: (('\n' :: List.replicate j ' ') ++ (quote false k' ++ ':' :: ([' '] ++
          (Json.write .indented depth w ++ (Json.writeEntries .indented depth es ++
            (gap ++ ch :: rest)))))) := by
      rw [Json.writeEntries, hj]
      simp [Style.indented, keyText]
    rw [hentries] at h
    obtain ⟨s₁, hleads₁, h₁⟩ := leadsTo_key h hallowed hspace hk
    obtain ⟨s₂, gap₂, hleads₂, hgap₂, h₂⟩ := hv h₁ (.spaces 1) .none rfl
    obtain ⟨s₃, hleads₃, h₃, hallowed₃⟩ := leadsTo_comma h₂ (isBlank_of_isGap hgap₂)
    obtain ⟨s', gap', hleads, hgap', h'⟩ := ih hk' hw hrest h₃ hallowed₃ (.line j)
    refine ⟨s', gap', hleads₁.trans (hleads₂.trans (hleads₃.trans hleads)), hgap', ?_⟩
    have htokens : ts ++ [.key, .scalar k false, .value] ++ tokensOf v ++ [.flowEntry] ++
        (.key :: .scalar k' false :: .value :: (tokensOf w ++ tokensOfEntries es)) =
        ts ++ (.key :: .scalar k false :: .value ::
          (tokensOf v ++ tokensOfEntries ((.str k', w) :: es))) := by
      simp [tokensOfEntries, keyText]
    rwa [htokens] at h'

theorem scansAs_list {items : List Value} (hitems : ∀ v ∈ items, ScansAs v) :
    ScansAs (.list items) := by
  intro s flow space depth gap ch rest ts h hspace hgap hch
  cases items with
  | nil =>
    obtain ⟨s₁, hleads₁, h₁, -⟩ := leadsTo_open token_list rfl h hspace
    have hend : Stands s₁ (flow + 1 + 1) ([] ++ ']' :: (gap ++ ch :: rest)) _ := h₁
    obtain ⟨s', hleads, h'⟩ := leadsTo_close token_endList rfl hend (.spaces 0)
    refine ⟨s', gap, hleads₁.trans hleads, hgap, ?_⟩
    rwa [List.append_assoc] at h'
  | cons v vs =>
    obtain ⟨hv, hvs⟩ := List.forall_mem_cons.mp hitems
    obtain ⟨k, hk⟩ := exists_lineBreak (depth + 1)
    obtain ⟨k', hk'⟩ := exists_lineBreak depth
    have hwrite : Json.write .indented depth (.list (v :: vs)) ++ (gap ++ ch :: rest) =
        '[' :: (('\n' :: List.replicate k ' ') ++ (Json.write .indented (depth + 1) v ++
          (Json.writeItems .indented (depth + 1) vs ++ (('\n' :: List.replicate k' ' ') ++
            ']' :: (gap ++ ch :: rest))))) := by
      rw [Json.write, hk, hk']
      simp
    rw [hwrite] at h
    obtain ⟨s₁, hleads₁, h₁, -⟩ := leadsTo_open token_list rfl h hspace
    obtain ⟨s₂, gap₂, hleads₂, hgap₂, h₂⟩ := leadsTo_items hv hvs h₁ (.line k) (.line k') rfl
    obtain ⟨s', hleads, h'⟩ := leadsTo_close token_endList rfl h₂ (isBlank_of_isGap hgap₂)
    refine ⟨s', gap, hleads₁.trans (hleads₂.trans hleads), hgap, ?_⟩
    have htokens : ts ++ [.flowSequenceStart] ++ (tokensOf v ++ tokensOfItems vs) ++
        [.flowSequenceEnd] = ts ++ tokensOf (.list (v :: vs)) := by
      simp [tokensOf]
    rwa [htokens] at h'

/-- **What is behind the opening bracket of an object** is scanned up to the closing one. -/
theorem leadsTo_objRest {es : List (Key × Value)}
    (hes : ∀ e ∈ es, ∃ k, e.1 = .str k ∧ keepsKey k = true ∧ ScansAs e.2) {depth : ℕ}
    {body : List Char} (hbody : Json.write .indented depth (.obj es) ++ rest = '\x7b' :: body)
    (h : Stands s (flow + 1) body (ts ++ [.flowMappingStart])) (hallowed : s.keyAllowed = true) :
    ∃ s', LeadsTo s s' ∧ Stands s' flow rest (ts ++ tokensOf (.obj es)) := by
  cases es with
  | nil =>
    obtain rfl : '\x7d' :: rest = body := (List.cons.inj hbody).2
    have hend : Stands s (flow + 1) ([] ++ '\x7d' :: rest) _ := h
    obtain ⟨s', hleads, h'⟩ := leadsTo_close token_endObj rfl hend (.spaces 0)
    rw [List.append_assoc] at h'
    exact ⟨s', hleads, h'⟩
  | cons e es =>
    obtain ⟨key, v⟩ := e
    obtain ⟨⟨t, hkey, ht, hv⟩, hrest⟩ := List.forall_mem_cons.mp hes
    obtain rfl : key = .str t := hkey
    obtain ⟨k, hk⟩ := exists_lineBreak (depth + 1)
    obtain ⟨k', hk'⟩ := exists_lineBreak depth
    obtain rfl : ('\n' :: List.replicate k ' ') ++ (quote false t ++ ':' :: ([' '] ++
        (Json.write .indented (depth + 1) v ++ (Json.writeEntries .indented (depth + 1) es ++
          (('\n' :: List.replicate k' ' ') ++ '\x7d' :: rest))))) = body := by
      rw [Json.write, hk, hk'] at hbody
      rw [← (List.cons.inj hbody).2]
      simp [Style.indented, keyText]
    obtain ⟨s₂, gap₂, hleads₂, hgap₂, h₂⟩ :=
      leadsTo_entries ht hv hrest h hallowed (.line k) (.line k') rfl
    obtain ⟨s', hleads, h'⟩ := leadsTo_close token_endObj rfl h₂ (isBlank_of_isGap hgap₂)
    refine ⟨s', hleads₂.trans hleads, ?_⟩
    have htokens : ts ++ [.flowMappingStart] ++
        (.key :: .scalar t false :: .value :: (tokensOf v ++ tokensOfEntries es)) ++
        [.flowMappingEnd] = ts ++ tokensOf (.obj ((.str t, v) :: es)) := by
      simp [tokensOf, keyText]
    rwa [htokens] at h'

theorem exists_write_obj (depth : ℕ) (es : List (Key × Value)) (rest : List Char) :
    ∃ body, Json.write .indented depth (.obj es) ++ rest = '\x7b' :: body := by
  cases es with
  | nil => exact ⟨_, rfl⟩
  | cons e es => exact ⟨_, by rw [Json.write, List.cons_append]⟩

theorem scansAs_obj {es : List (Key × Value)}
    (hes : ∀ e ∈ es, ∃ k, e.1 = .str k ∧ keepsKey k = true ∧ ScansAs e.2) : ScansAs (.obj es) := by
  intro s flow space depth gap ch rest ts h hspace hgap hch
  obtain ⟨body, hbody⟩ := exists_write_obj depth es (gap ++ ch :: rest)
  rw [hbody] at h
  obtain ⟨s₁, hleads₁, h₁, hallowed⟩ := leadsTo_open token_obj rfl h hspace
  obtain ⟨s', hleads, h'⟩ := leadsTo_objRest hes hbody h₁ hallowed
  exact ⟨s', gap, hleads₁.trans hleads, hgap, h'⟩

/-- **A JSON value is scanned as its tokens.** -/
theorem scansAs_of_keptByYaml {v : Value} (hjson : v.IsJson) (hkept : v.keptByYaml = true) :
    ScansAs v := by
  induction hjson with
  | null => exact scansAs_of_word ⟨List.all_eq_true.mp rfl, 'n', _, rfl, .inl rfl⟩ (fun _ => rfl) rfl
  | bool b =>
    refine scansAs_of_word ?_ (fun _ => rfl) rfl
    cases b
    · exact ⟨List.all_eq_true.mp rfl, 'f', _, rfl, .inl rfl⟩
    · exact ⟨List.all_eq_true.mp rfl, 't', _, rfl, .inl rfl⟩
  | int n => exact scansAs_of_word (isWord_intChars n) (fun _ => rfl) rfl
  | @float d hd =>
    obtain ⟨n, hn, -, hsigned, -⟩ := Json.exists_isSigned_floatChars hd
    exact scansAs_of_word (isWord_numeral hn hsigned) (fun _ => rfl) rfl
  | str s => exact scansAs_str hkept
  | list _ ih =>
    exact scansAs_list fun v hv => ih v hv (Value.areKeptByYaml_iff.mp hkept v hv)
  | obj hkeys _ _ ih =>
    refine scansAs_obj fun e he => ?_
    obtain ⟨hkey, hvalue⟩ := Value.areEntriesKeptByYaml_iff.mp hkept e he
    obtain ⟨k, hk⟩ := hkeys e.1 (List.mem_map_of_mem he)
    rw [hk] at hkey
    exact ⟨k, hk, hkey, ih e he hvalue⟩

/-- The entries of an object that is kept are scanned as they have to be. -/
theorem scansAs_entries {es : List (Key × Value)} (hjson : (Value.obj es).IsJson)
    (hkept : (Value.obj es).keptByYaml = true) :
    ∀ e ∈ es, ∃ k, e.1 = .str k ∧ keepsKey k = true ∧ ScansAs e.2 := by
  obtain ⟨hkeys, -, hvalues⟩ := Value.isJson_obj.mp hjson
  intro e he
  obtain ⟨hkey, hvalue⟩ := Value.areEntriesKeptByYaml_iff.mp hkept e he
  obtain ⟨k, hk⟩ := hkeys e.1 (List.mem_map_of_mem he)
  rw [hk] at hkey
  exact ⟨k, hk, hkey, scansAs_of_keptByYaml (hvalues e he) hvalue⟩

/-! ### The whole text -/

/-- At the end of the text, nothing is left to be done. -/
theorem run_end (n : ℕ) (h : Stands s 0 [] ts) :
    ∃ s', run (n + 1) s = .ok ((), s') ∧ Piece.tokens s'.filled s'.pieces.reverse = ts := by
  have hspaces : Scan.skipSpaces s.cursor = .ok ((), s.cursor) := by
    have htake : Scan.takeWhile (· = ' ') s.cursor = .ok ([], s.cursor) :=
      Scan.takeWhile_run_nil (by simp [h.rest])
    rw [Scan.skipSpaces, Stateful.bind_of_ok htake]
    rfl
  have hpeek : Scan.peek s.cursor = .ok (none, s.cursor) := by
    rw [Scan.peek_run, h.rest]
    rfl
  have hbreak : Scan.lineBreak s.cursor = .ok ([], s.cursor) := by
    rw [Scan.lineBreak, Stateful.bind_of_ok hpeek]
    rfl
  have hskip : skipToToken (s.cursor.rest.length + 1) s = .ok ((), s) := by
    rw [skipToToken, Stateful.bind_of_ok (read_of_ok hspaces),
      Stateful.bind_of_ok (read_of_ok hpeek)]
    simp only [reduceCtorEq, reduceIte]
    rw [Stateful.bind_of_ok (read_of_ok hbreak)]
    rfl
  -- What is left of the candidates for keys is dropped.
  obtain ⟨s₁, hs₁⟩ : ∃ s₁, dropStale s = .ok ((), s₁) ∧ Stands s₁ 0 [] ts ∧ s₁.cursor = s.cursor :=
    ⟨_, dropStale_run h.optional, Stands.filtered h _, rfl⟩
  obtain ⟨hstale, h₁, hcursor⟩ := hs₁
  rw [← hcursor] at hpeek
  refine ⟨_, ?_, (Stands.filtered h₁ fun e => e.1 != s₁.flow).shown⟩
  rw [run, Stateful.bind_of_ok (get_run s), Stateful.bind_of_ok hskip, Stateful.bind_of_ok hstale,
    Stateful.bind_of_ok (get_run _), Stateful.bind_of_ok (closeBlocks_run _ h₁.outer),
    Stateful.bind_of_ok (read_of_ok hpeek)]
  exact (Stateful.bind_of_ok (closeBlocks_run _ h₁.outer)).trans (dropCandidate_run h₁.optional)

end Step

/-! ### Characters -/

/-- Whether a character can stand in a text and is read from a file as it is. -/
def isSteady (ch : Char) : Bool := isPrintable ch && ch != '\r'

theorem isSteady_of_visible {ch : Char} (hlow : 0x20 ≤ ch.toNat) (hhigh : ch.toNat ≤ 0x7e) :
    isSteady ch = true := by
  have hreturn : ch ≠ '\r' := by
    rintro rfl
    exact absurd hlow (by decide)
  simp [isSteady, isPrintable, hlow, hhigh, hreturn]

theorem isSteady_of_isBareWordChar {ch : Char} (h : Scan.isBareWordChar ch = true) :
    isSteady ch = true := by
  have hvisible : 0x20 ≤ ch.toNat ∧ ch.toNat ≤ 0x7e := by
    simp only [Scan.isBareWordChar, Bool.or_eq_true, decide_eq_true_eq] at h
    rcases h with ((h | rfl) | rfl) | rfl
    · simp only [Char.isAlphanum, Char.isAlpha, Char.isUpper, Char.isLower, Char.isDigit,
        Bool.or_eq_true, Bool.and_eq_true, decide_eq_true_eq, ge_iff_le, UInt32.le_iff_toNat_le] at h
      simp at h
      omega
    all_goals decide
  exact isSteady_of_visible hvisible.1 hvisible.2

theorem isSteady_quote {text : String} (h : Scan.keepsText text = true) :
    ∀ ch ∈ quote false text, isSteady ch = true := by
  intro ch hch
  rw [Scan.keepsText, Bool.and_eq_true, List.all_eq_true] at h
  rcases Scan.mem_quote hch with ⟨hmem, hlarge⟩ | hvisible
  · have hkeep := h.1 ch hmem
    rw [Scan.keepsChar, Bool.or_eq_true, decide_eq_true_iff, Bool.and_eq_true] at hkeep
    rcases hkeep with hsmall | hkeep
    · omega
    · have hreturn : ch ≠ '\r' := by
        rintro rfl
        exact absurd hlarge (by decide)
      simp [isSteady, hkeep.1, hreturn]
  · rw [Scan.isVisible, Bool.and_eq_true, decide_eq_true_iff, decide_eq_true_iff] at hvisible
    exact isSteady_of_visible hvisible.1 hvisible.2

theorem isSteady_lineBreak (depth : ℕ) :
    ∀ ch ∈ Style.indented.lineBreak depth, isSteady ch = true := by
  obtain ⟨k, hk⟩ := Step.exists_lineBreak depth
  rw [hk]
  exact List.forall_mem_cons.mpr ⟨rfl, fun ch hch => by rw [List.eq_of_mem_replicate hch]; rfl⟩

theorem isSteady_writeItems {vs : List Value}
    (h : ∀ v ∈ vs, ∀ depth, ∀ ch ∈ Json.write .indented depth v, isSteady ch = true) (depth : ℕ) :
    ∀ ch ∈ Json.writeItems .indented depth vs, isSteady ch = true := by
  induction vs with
  | nil => exact List.forall_mem_nil _
  | cons v vs ih =>
    obtain ⟨hv, hvs⟩ := List.forall_mem_cons.mp h
    rw [Json.writeItems]
    simp only [List.forall_mem_append]
    exact ⟨⟨⟨List.all_eq_true.mp rfl, isSteady_lineBreak _⟩, hv _⟩, ih hvs⟩

theorem isSteady_writeEntries {es : List (Key × Value)}
    (h : ∀ e ∈ es, (∃ k, e.1 = .str k ∧ Scan.keepsText k = true) ∧
      ∀ depth, ∀ ch ∈ Json.write .indented depth e.2, isSteady ch = true) (depth : ℕ) :
    ∀ ch ∈ Json.writeEntries .indented depth es, isSteady ch = true := by
  induction es with
  | nil => exact List.forall_mem_nil _
  | cons e es ih =>
    obtain ⟨key, v⟩ := e
    obtain ⟨⟨⟨k, hkey, hk⟩, hv⟩, hes⟩ := List.forall_mem_cons.mp h
    obtain rfl : key = .str k := hkey
    rw [Json.writeEntries]
    simp only [List.forall_mem_append]
    exact ⟨⟨⟨⟨⟨List.all_eq_true.mp rfl, isSteady_lineBreak _⟩, isSteady_quote hk⟩,
      List.all_eq_true.mp rfl⟩, hv _⟩, ih hes⟩

/-- **The text of a value that is kept** is printable and stays as it is in a file. -/
theorem isSteady_write {v : Value} (hjson : v.IsJson) (hkept : v.keptByYaml = true) (depth : ℕ) :
    ∀ ch ∈ Json.write .indented depth v, isSteady ch = true := by
  have hword : ∀ {word}, Step.IsWord word → ∀ ch ∈ word, isSteady ch = true :=
    fun hword ch hch => isSteady_of_isBareWordChar (hword.bare ch hch)
  induction hjson generalizing depth with
  | null => exact List.all_eq_true.mp rfl
  | bool b => cases b <;> exact List.all_eq_true.mp rfl
  | int n => exact hword (isWord_intChars n)
  | @float d hd =>
    obtain ⟨n, hn, -, hsigned, -⟩ := Json.exists_isSigned_floatChars hd
    exact hword (isWord_numeral hn hsigned)
  | str s => exact isSteady_quote hkept
  | @list items _ ih =>
    have hitems : ∀ v ∈ items, ∀ depth, ∀ ch ∈ Json.write .indented depth v, isSteady ch = true :=
      fun v hv => ih v hv (Value.areKeptByYaml_iff.mp hkept v hv)
    cases items with
    | nil => exact List.all_eq_true.mp rfl
    | cons v vs =>
      obtain ⟨hv, hvs⟩ := List.forall_mem_cons.mp hitems
      rw [Json.write]
      simp only [List.forall_mem_cons, List.forall_mem_append]
      exact ⟨rfl, ⟨⟨⟨isSteady_lineBreak _, hv _⟩, isSteady_writeItems hvs _⟩,
        isSteady_lineBreak _⟩, rfl, List.forall_mem_nil _⟩
  | @obj es hkeys _ _ ih =>
    have hentries : ∀ e ∈ es, (∃ k, e.1 = .str k ∧ Scan.keepsText k = true) ∧
        ∀ depth, ∀ ch ∈ Json.write .indented depth e.2, isSteady ch = true := by
      intro e he
      obtain ⟨hkey, hvalue⟩ := Value.areEntriesKeptByYaml_iff.mp hkept e he
      obtain ⟨k, hk⟩ := hkeys e.1 (List.mem_map_of_mem he)
      rw [hk, Key.keptByYaml, Step.keepsKey, Bool.and_eq_true, Bool.and_eq_true] at hkey
      exact ⟨⟨k, hk, hkey.1.1⟩, ih e he hvalue⟩
    cases es with
    | nil => exact List.all_eq_true.mp rfl
    | cons e es =>
      obtain ⟨key, v⟩ := e
      obtain ⟨⟨⟨k, hkey, hk⟩, hv⟩, hes⟩ := List.forall_mem_cons.mp hentries
      obtain rfl : key = .str k := hkey
      rw [Json.write]
      simp only [List.forall_mem_cons, List.forall_mem_append]
      exact ⟨rfl, ⟨⟨⟨⟨⟨isSteady_lineBreak _, isSteady_quote hk⟩, List.all_eq_true.mp rfl⟩, hv _⟩,
        isSteady_writeEntries hes _⟩, isSteady_lineBreak _⟩, rfl, List.forall_mem_nil _⟩

/-- **The tokens of the text of an object are those of the object.** -/
theorem tokens_print {es : List (Key × Value)} (hjson : (Value.obj es).IsJson)
    (hkept : (Value.obj es).keptByYaml = true) :
    Token.ofText? (Json.write .indented 0 (.obj es)) = .ok (tokensOf (.obj es)) := by
  obtain ⟨body, hbody⟩ := Step.exists_write_obj 0 es []
  rw [List.append_nil] at hbody
  have hprintable : (Json.write .indented 0 (.obj es)).all isPrintable = true :=
    List.all_eq_true.mpr fun ch hch =>
      (Bool.and_eq_true_iff.mp (isSteady_write hjson hkept 0 ch hch)).1
  have hstart : Step.Stands { cursor := ⟨'\x7b' :: body, 0, 0, 0⟩ } 0 ([] ++ '\x7b' :: body) [] :=
    ⟨rfl, rfl, rfl, by simp, by simp, by simp, rfl⟩
  obtain ⟨s₁, hopen, h₁, hallowed⟩ :=
    Step.openFlow_run (Step.Stands.atToken hstart) rfl .flowMappingStart
  obtain ⟨s₂, hleads, h₂⟩ := Step.leadsTo_objRest (Step.scansAs_entries hjson hkept)
    ((List.append_nil _).trans hbody) h₁ hallowed
  have hfuel : s₁.cursor.rest.length < 2 * ('\x7b' :: body).length + 1 := by
    rw [h₁.rest, List.length_cons]
    omega
  obtain ⟨n, hn, hrun⟩ := hleads _ hfuel
  obtain ⟨n, rfl⟩ : ∃ m, n = m + 1 := ⟨n - 1, by omega⟩
  obtain ⟨s₃, hend, hshown⟩ := Step.run_end n h₂
  have hall : Step.run (2 * ('\x7b' :: body).length + 1 + 1) { cursor := ⟨'\x7b' :: body, 0, 0, 0⟩ } =
      .ok ((), s₃) := by
    rw [Step.run_token hstart (Step.skipToToken_spaces (k := 0) rfl rfl),
      Stateful.bind_of_ok ((Step.token_obj _).trans hopen), hrun, hend]
  rw [hbody] at hprintable ⊢
  have hmark : '\x7b' ≠ byteOrderMark := by decide
  rw [Token.ofText?, hprintable]
  simp only [Bool.not_true, Bool.false_eq_true, reduceIte, hmark, StateT.run]
  rw [hall]
  exact congrArg Except.ok hshown

end Yaml

end WizardLogic
