import Mathlib
import WizardLogic.Proofs.Yaml.Text
import WizardLogic.Yaml

/-!
# The nodes of a JSON value

The tokens of a JSON value are read as its node (`Node.ofValue`), in which plain scalars are tagged by
their spelling. Reading a node takes two calls for a scalar and three for a collection, so that three
calls for each token are enough (`Read.ReadsAs`); the items of a list and the entries of an object are
read one after the other, the first of them without a comma in front (`Read.flowItems_run`,
`Read.flowEntries_run`).
-/

namespace WizardLogic.Yaml

open Json (intChars floatChars boolChars keyText)
open Stateful

namespace Node

/-! ### The node of a value -/

/-- The node of a plain scalar. -/
def plain (cs : List Char) : Node := .scalar (.ofSpelling (String.ofList cs)) (String.ofList cs)

mutual

/-- The node of a value. -/
def ofValue : Value → Node
  | .null => plain "null".toList
  | .bool b => plain (boolChars b)
  | .int n => plain (intChars n)
  | .float d => plain (floatChars d)
  | .str s => .scalar .text s
  | .list items => .sequence .sequence (ofValues items)
  | .obj es => .mapping .mapping (ofEntries es)

/-- The nodes of values. -/
def ofValues : List Value → List Node
  | [] => []
  | v :: vs => ofValue v :: ofValues vs

/-- The keys and values of entries as nodes. -/
def ofEntries : List (Key × Value) → List (Node × Node)
  | [] => []
  | (k, v) :: es => (.scalar .text (keyText k), ofValue v) :: ofEntries es

end

/-! ### Reading tokens -/

namespace Read

variable {s : Reading} {t : Token} {ts : List Token}

theorem peek_run (h : s.tokens = t :: ts) : peek s = .ok (some t, s) := by
  have hget : (get : Read Reading) s = .ok (s, s) := rfl
  rw [peek, bind_of_ok hget, h]
  rfl

theorem advance_run (h : s.tokens = t :: ts) : advance s = .ok ((), { s with tokens := ts }) := by
  change Except.ok ((), { s with tokens := s.tokens.tail }) = _
  rw [h]
  rfl

theorem accept_run (h : s.tokens = t :: ts) : accept t s = .ok (true, { s with tokens := ts }) := by
  rw [accept, bind_of_ok (peek_run h), if_pos rfl, bind_of_ok (advance_run h)]
  rfl

theorem accept_run_of_ne {t' : Token} (h : s.tokens = t :: ts) (hne : t ≠ t') :
    accept t' s = .ok (false, s) := by
  rw [accept, bind_of_ok (peek_run h), if_neg (by simpa using hne)]
  rfl

/-- Whether a token begins the content of a node. -/
inductive BeginsContent : Token → Prop
  | scalar (text : String) (plain : Bool) : BeginsContent (.scalar text plain)
  | list : BeginsContent .flowSequenceStart
  | obj : BeginsContent .flowMappingStart

/-- A node without properties is its content. -/
theorem node_run (inBlock besideKey : Bool) {n : ℕ} {x : Node} {s' : Reading}
    (h : s.tokens = t :: ts) (ht : BeginsContent t)
    (hcontent : content inBlock besideKey false none n s = .ok (x, s')) :
    node inBlock besideKey (n + 1) s = .ok (x, s') := by
  have hanchor : anchor? s = .ok (none, s) := by
    rw [anchor?, bind_of_ok (peek_run h)]
    cases ht <;> rfl
  have htag : tag? s = .ok (none, s) := by
    rw [tag?, bind_of_ok (peek_run h)]
    cases ht <;> rfl
  have hproperties : properties s = .ok ((none, none), s) := by
    rw [properties, bind_of_ok hanchor, bind_of_ok htag]
    rfl
  have hannounce : announce none s = .ok ((), s) := rfl
  have hrest : (do
      let found ← properties
      announce found.1
      let x ← content inBlock besideKey (found.1.isSome || found.2.isSome) found.2 n
      keep found.1 x
      return x : Read Node) s = .ok (x, s') := by
    rw [bind_of_ok hproperties]
    simp only [Option.isSome_none, Bool.or_self]
    rw [bind_of_ok hannounce, bind_of_ok hcontent]
    rfl
  rw [node, bind_of_ok (peek_run h)]
  cases ht <;> exact hrest

theorem content_scalar (inBlock besideKey : Bool) {n : ℕ} {text : String} {plain : Bool}
    (h : s.tokens = .scalar text plain :: ts) :
    content inBlock besideKey false none (n + 1) s =
      .ok (.scalar (scalarTag none plain text) text, { s with tokens := ts }) := by
  rw [content, bind_of_ok (peek_run h)]
  exact bind_of_ok (advance_run h)

theorem content_list (inBlock besideKey : Bool) {n : ℕ} {xs : List Node} {s' : Reading}
    (h : s.tokens = .flowSequenceStart :: ts)
    (hitems : flowItems true n { s with tokens := ts } = .ok (xs, s')) :
    content inBlock besideKey false none (n + 1) s = .ok (.sequence .sequence xs, s') := by
  rw [content, bind_of_ok (peek_run h)]
  simp only []
  rw [bind_of_ok (advance_run h), bind_of_ok hitems]
  rfl

theorem content_obj (inBlock besideKey : Bool) {n : ℕ} {xs : List (Node × Node)} {s' : Reading}
    (h : s.tokens = .flowMappingStart :: ts)
    (hentries : flowEntries true n { s with tokens := ts } = .ok (xs, s')) :
    content inBlock besideKey false none (n + 1) s = .ok (.mapping .mapping xs, s') := by
  rw [content, bind_of_ok (peek_run h)]
  simp only []
  rw [bind_of_ok (advance_run h), bind_of_ok hentries]
  rfl

theorem BeginsContent.ne {t t' : Token} (ht : BeginsContent t)
    (ht' : t' = .flowSequenceEnd ∨ t' = .flowMappingEnd ∨ t' = .key ∨ t' = .value ∨ t' = .flowEntry) :
    t ≠ t' := by
  rcases ht' with rfl | rfl | rfl | rfl | rfl <;> cases ht <;> simp

/-- An item of a list, behind its comma if it is not the first. -/
theorem flowItems_item {first : Bool} {n : ℕ} {t₀ : Token} {ts₀ : List Token} {x : Node}
    {xs : List Node} {s₁ s₂ s₃ : Reading} (h : s.tokens = t₀ :: ts₀) (ht₀ : t₀ ≠ .flowSequenceEnd)
    (hsep : separated first s = .ok (true, s₁)) (h₁ : s₁.tokens = t :: ts) (ht : BeginsContent t)
    (hitem : node false false n s₁ = .ok (x, s₂)) (hitems : flowItems false n s₂ = .ok (xs, s₃)) :
    flowItems first (n + 1) s = .ok (x :: xs, s₃) := by
  rw [flowItems, bind_of_ok (accept_run_of_ne h ht₀)]
  simp only [Bool.false_eq_true, reduceIte]
  rw [bind_of_ok hsep]
  simp only [reduceIte]
  rw [bind_of_ok (accept_run_of_ne h₁ (ht.ne (.inl rfl)))]
  simp only [Bool.false_eq_true, reduceIte]
  rw [bind_of_ok (accept_run_of_ne h₁ (ht.ne (.inr (.inr (.inl rfl)))))]
  simp only [Bool.false_eq_true, reduceIte]
  rw [bind_of_ok hitem, bind_of_ok hitems]
  rfl

theorem flowItems_end (first : Bool) {n : ℕ} (h : s.tokens = .flowSequenceEnd :: ts) :
    flowItems first (n + 1) s = .ok ([], { s with tokens := ts }) := by
  rw [flowItems, bind_of_ok (accept_run h)]
  rfl

theorem flowEntries_end (first : Bool) {n : ℕ} (h : s.tokens = .flowMappingEnd :: ts) :
    flowEntries first (n + 1) s = .ok ([], { s with tokens := ts }) := by
  rw [flowEntries, bind_of_ok (accept_run h)]
  rfl

theorem nodeBefore_run {ends : List Token} {n : ℕ} {x : Node} {s' : Reading}
    (h : s.tokens = t :: ts) (ht : ends.contains t = false)
    (hnode : node false false n s = .ok (x, s')) :
    nodeBefore false false ends (n + 1) s = .ok (x, s') := by
  rw [nodeBefore, bind_of_ok (peek_run h)]
  simp only [ht, Bool.false_eq_true, reduceIte]
  exact hnode

/-- An entry of an object, behind its comma if it is not the first. -/
theorem flowEntries_entry {first : Bool} {n : ℕ} {t₀ : Token} {ts₀ : List Token} {key : String}
    {x : Node} {xs : List (Node × Node)} {s₁ s₂ s₃ : Reading} (h : s.tokens = t₀ :: ts₀)
    (ht₀ : t₀ ≠ .flowMappingEnd) (hsep : separated first s = .ok (true, s₁))
    (h₁ : s₁.tokens = .key :: .scalar key false :: .value :: t :: ts) (ht : BeginsContent t)
    (hvalue : node false false (n + 1) { s₁ with tokens := t :: ts } = .ok (x, s₂))
    (hentries : flowEntries false (n + 3) s₂ = .ok (xs, s₃)) :
    flowEntries first (n + 4) s = .ok ((.scalar .text key, x) :: xs, s₃) := by
  have hkey : nodeBefore false false [.value, .flowEntry, .flowMappingEnd] (n + 3)
      { s₁ with tokens := .scalar key false :: .value :: t :: ts } =
        .ok (.scalar .text key, { s₁ with tokens := .value :: t :: ts }) :=
    nodeBefore_run rfl rfl (node_run _ _ (n := n + 1) rfl (.scalar _ _)
      (content_scalar _ _ (s := { s₁ with tokens := .scalar key false :: .value :: t :: ts }) rfl))
  have hends : ([.flowEntry, .flowMappingEnd] : List Token).contains t = false := by
    cases ht <;> rfl
  have hvalue' : valueBefore false [.flowEntry, .flowMappingEnd] (n + 3)
      { s₁ with tokens := .value :: t :: ts } = .ok (x, s₂) := by
    rw [valueBefore, bind_of_ok (accept_run rfl)]
    exact nodeBefore_run rfl hends hvalue
  rw [flowEntries, bind_of_ok (accept_run_of_ne h ht₀)]
  simp only [Bool.false_eq_true, reduceIte]
  rw [bind_of_ok hsep]
  simp only [reduceIte]
  rw [bind_of_ok (accept_run_of_ne h₁ (by decide))]
  simp only [Bool.false_eq_true, reduceIte]
  rw [bind_of_ok (accept_run h₁)]
  simp only [reduceIte]
  rw [bind_of_ok hkey, bind_of_ok hvalue', bind_of_ok (pure_run _ _), bind_of_ok hentries]
  rfl

/-! ### Reading values -/

/-- Whether a value's tokens are read as its node. -/
def ReadsAs (v : Value) : Prop :=
  ∀ (inBlock besideKey : Bool) {n : ℕ} {s : Reading} {ts : List Token},
    s.tokens = tokensOf v ++ ts → 3 * (tokensOf v).length ≤ n →
    node inBlock besideKey n s = .ok (ofValue v, { s with tokens := ts })

theorem exists_tokensOf_eq_cons (v : Value) :
    ∃ t ts, tokensOf v = t :: ts ∧ BeginsContent t := by
  cases v with
  | list items => cases items <;> exact ⟨_, _, by rw [tokensOf], .list⟩
  | obj es =>
    rcases es with _ | ⟨⟨k, v⟩, es⟩
    · exact ⟨_, _, by rw [tokensOf], .obj⟩
    · exact ⟨_, _, by rw [tokensOf], .obj⟩
  | _ => exact ⟨_, _, by rw [tokensOf], .scalar _ _⟩

theorem readsAs_of_scalar {v : Value} {text : String} {isPlain : Bool}
    (htokens : tokensOf v = [.scalar text isPlain])
    (hnode : ofValue v = .scalar (scalarTag none isPlain text) text) : ReadsAs v := by
  intro inBlock besideKey n s ts h hn
  rw [htokens] at h hn
  obtain ⟨n, rfl⟩ : ∃ m, n = m + 2 := ⟨n - 2, by simp at hn; omega⟩
  rw [hnode]
  exact node_run _ _ h (.scalar _ _) (content_scalar _ _ h)

/-- **The items of a list** are read up to the closing bracket. -/
theorem flowItems_run {v : Value} {vs : List Value} (hv : ReadsAs v) (hvs : ∀ v ∈ vs, ReadsAs v)
    {first : Bool} {n : ℕ} {t₀ : Token} {ts₀ : List Token} {s₁ : Reading} (h : s.tokens = t₀ :: ts₀)
    (ht₀ : t₀ ≠ .flowSequenceEnd) (hsep : separated first s = .ok (true, s₁))
    (h₁ : s₁.tokens = tokensOf v ++ (tokensOfItems vs ++ .flowSequenceEnd :: ts))
    (hn : 3 * ((tokensOf v).length + (tokensOfItems vs).length) + 2 ≤ n) :
    flowItems first n s = .ok (ofValues (v :: vs), { s₁ with tokens := ts }) := by
  induction vs generalizing v s first n t₀ ts₀ s₁ with
  | nil =>
    obtain ⟨n, rfl⟩ : ∃ m, n = m + 2 := ⟨n - 2, by omega⟩
    obtain ⟨t, ts', htokens, ht⟩ := exists_tokensOf_eq_cons v
    have h₁' : s₁.tokens = t :: (ts' ++ .flowSequenceEnd :: ts) := by
      rw [h₁, htokens]
      rfl
    exact flowItems_item h ht₀ hsep h₁' ht (hv _ _ h₁ (by omega)) (flowItems_end false rfl)
  | cons w vs ih =>
    obtain ⟨hw, hvs⟩ := List.forall_mem_cons.mp hvs
    obtain ⟨n, rfl⟩ : ∃ m, n = m + 1 := ⟨n - 1, by omega⟩
    rw [tokensOfItems, List.length_cons, List.length_append] at hn
    obtain ⟨t, ts', htokens, ht⟩ := exists_tokensOf_eq_cons v
    set tail := tokensOf w ++ (tokensOfItems vs ++ .flowSequenceEnd :: ts) with htail
    have hrest : tokensOfItems (w :: vs) ++ .flowSequenceEnd :: ts = .flowEntry :: tail := by
      rw [tokensOfItems, List.cons_append, List.append_assoc, htail]
    rw [hrest] at h₁
    have h₁' : s₁.tokens = t :: (ts' ++ .flowEntry :: tail) := by
      rw [h₁, htokens]
      rfl
    have hcomma : separated false { s₁ with tokens := .flowEntry :: tail } =
        .ok (true, { s₁ with tokens := tail }) := accept_run rfl
    have hitems := ih hw hvs (n := n) rfl (by decide) hcomma htail (by omega)
    exact flowItems_item h ht₀ hsep h₁' ht (hv _ _ h₁ (by omega)) hitems

/-- **The entries of an object** are read up to the closing brace. -/
theorem flowEntries_run {k : Key} {v : Value} {es : List (Key × Value)} (hv : ReadsAs v)
    (hes : ∀ e ∈ es, ReadsAs e.2) {first : Bool} {n : ℕ} {t₀ : Token} {ts₀ : List Token}
    {s₁ : Reading} (h : s.tokens = t₀ :: ts₀) (ht₀ : t₀ ≠ .flowMappingEnd)
    (hsep : separated first s = .ok (true, s₁))
    (h₁ : s₁.tokens = .key :: .scalar (keyText k) false :: .value ::
      (tokensOf v ++ (tokensOfEntries es ++ .flowMappingEnd :: ts)))
    (hn : 3 * ((tokensOf v).length + (tokensOfEntries es).length) + 4 ≤ n) :
    flowEntries first n s = .ok (ofEntries ((k, v) :: es), { s₁ with tokens := ts }) := by
  have hvalue : ∀ {n tail}, 3 * (tokensOf v).length ≤ n →
      node false false n { s₁ with tokens := tokensOf v ++ tail } =
        .ok (ofValue v, { s₁ with tokens := tail }) := fun hn => hv _ _ rfl hn
  induction es generalizing k v s first n t₀ ts₀ s₁ with
  | nil =>
    obtain ⟨n, rfl⟩ : ∃ m, n = m + 4 := ⟨n - 4, by omega⟩
    obtain ⟨t, ts', htokens, ht⟩ := exists_tokensOf_eq_cons v
    rw [htokens] at h₁ hvalue
    exact flowEntries_entry h ht₀ hsep h₁ ht (hvalue (by rw [← htokens]; omega))
      (flowEntries_end false rfl)
  | cons e es ih =>
    obtain ⟨k', w⟩ := e
    obtain ⟨hw, hes⟩ := List.forall_mem_cons.mp hes
    obtain ⟨n, rfl⟩ : ∃ m, n = m + 4 := ⟨n - 4, by omega⟩
    rw [tokensOfEntries] at hn
    simp only [List.length_cons, List.length_append] at hn
    obtain ⟨t, ts', htokens, ht⟩ := exists_tokensOf_eq_cons v
    set tail := .key :: .scalar (keyText k') false :: .value ::
      (tokensOf w ++ (tokensOfEntries es ++ .flowMappingEnd :: ts)) with htail
    have hrest : tokensOfEntries ((k', w) :: es) ++ .flowMappingEnd :: ts = .flowEntry :: tail := by
      simp [tokensOfEntries, htail]
    have hcomma : separated false { s₁ with tokens := .flowEntry :: tail } =
        .ok (true, { s₁ with tokens := tail }) := accept_run rfl
    rw [hrest, htokens] at h₁
    rw [htokens] at hvalue
    have hentries := ih (v := w) hw hes (n := n + 3) rfl (by decide) hcomma htail (by omega)
      fun hn => hw _ _ rfl hn
    exact flowEntries_entry h ht₀ hsep h₁ ht (hvalue (by rw [← htokens]; omega)) hentries

/-- **The tokens of a JSON value are read as its node.** -/
theorem readsAs_of_isJson {v : Value} (hjson : v.IsJson) : ReadsAs v := by
  induction hjson with
  | null => exact readsAs_of_scalar rfl rfl
  | bool b => exact readsAs_of_scalar rfl rfl
  | int n => exact readsAs_of_scalar rfl rfl
  | float _ => exact readsAs_of_scalar rfl rfl
  | str s => exact readsAs_of_scalar rfl rfl
  | @list items _ ih =>
    intro inBlock besideKey n s ts h hn
    cases items with
    | nil =>
      obtain ⟨n, rfl⟩ : ∃ m, n = m + 3 := ⟨n - 3, by simp [tokensOf] at hn; omega⟩
      exact node_run _ _ h .list (content_list _ _ h (flowItems_end true rfl))
    | cons v vs =>
      obtain ⟨hv, hvs⟩ := List.forall_mem_cons.mp ih
      rw [tokensOf] at h hn
      simp only [List.length_cons, List.length_append] at hn
      obtain ⟨n, rfl⟩ : ∃ m, n = m + 2 := ⟨n - 2, by omega⟩
      have htokens : tokensOf v ++ (tokensOfItems vs ++ [.flowSequenceEnd]) ++ ts =
          tokensOf v ++ (tokensOfItems vs ++ .flowSequenceEnd :: ts) := by
        simp
      rw [List.cons_append, htokens] at h
      set tail := tokensOf v ++ (tokensOfItems vs ++ .flowSequenceEnd :: ts) with htail
      obtain ⟨t, ts', hcons, ht⟩ := exists_tokensOf_eq_cons v
      have hhead : tail = t :: (ts' ++ (tokensOfItems vs ++ .flowSequenceEnd :: ts)) := by
        rw [htail, hcons]
        rfl
      have hfirst : separated true { s with tokens := tail } =
          .ok (true, { s with tokens := tail }) := rfl
      have hitems := flowItems_run hv hvs (n := n) hhead (ht.ne (.inl rfl)) hfirst htail
        (by simp at hn; omega)
      exact node_run _ _ h .list (content_list _ _ h hitems)
  | @obj es _ _ _ ih =>
    intro inBlock besideKey n s ts h hn
    cases es with
    | nil =>
      obtain ⟨n, rfl⟩ : ∃ m, n = m + 3 := ⟨n - 3, by simp [tokensOf] at hn; omega⟩
      exact node_run _ _ h .obj (content_obj _ _ h (flowEntries_end true rfl))
    | cons e es =>
      obtain ⟨k, v⟩ := e
      obtain ⟨hv, hes⟩ := List.forall_mem_cons.mp ih
      rw [tokensOf] at h hn
      simp only [List.length_cons, List.length_append] at hn
      obtain ⟨n, rfl⟩ : ∃ m, n = m + 2 := ⟨n - 2, by omega⟩
      have htokens : tokensOf v ++ (tokensOfEntries es ++ [.flowMappingEnd]) ++ ts =
          tokensOf v ++ (tokensOfEntries es ++ .flowMappingEnd :: ts) := by
        simp
      simp only [List.cons_append] at h
      rw [htokens] at h
      set tail := .key :: .scalar (keyText k) false :: .value ::
        (tokensOf v ++ (tokensOfEntries es ++ .flowMappingEnd :: ts)) with htail
      have hfirst : separated true { s with tokens := tail } =
          .ok (true, { s with tokens := tail }) := rfl
      have hentries := flowEntries_run (v := v) hv hes (n := n) htail (by decide) hfirst htail
        (by simp at hn ⊢; omega)
      exact node_run _ _ h .obj (content_obj _ _ h hentries)

end Read

/-- **The node of the tokens of an object** is that of the object. -/
theorem ofTokens?_tokensOf {es : List (Key × Value)} (hjson : (Value.obj es).IsJson) :
    ofTokens? (tokensOf (.obj es)) = .ok (ofValue (.obj es)) := by
  set n := 3 * (tokensOf (.obj es)).length + 3 with hn
  obtain ⟨t, ts, htokens, ht⟩ := Read.exists_tokensOf_eq_cons (.obj es)
  set s : Reading := ⟨tokensOf (.obj es), commonHandles, []⟩
  have hnode : Read.node true false n s = .ok (ofValue (.obj es), { s with tokens := [] }) :=
    Read.readsAs_of_isJson hjson _ _ (List.append_nil _).symm (by omega)
  have hpeek : Read.peek s = .ok (some t, s) := Read.peek_run htokens
  have hdirective : Read.atDirective s = .ok (false, s) := by
    rw [Read.atDirective, bind_of_ok hpeek]
    cases ht <;> rfl
  have hmark : (false || decide (t = .documentStart)) = false := by
    cases ht <;> rfl
  have hdocument : Read.document n s = .ok (ofValue (.obj es), { s with tokens := [] }) := by
    rw [Read.document, bind_of_ok hpeek]
    simp only []
    rw [bind_of_ok hdirective]
    simp only [hmark, Bool.false_eq_true, reduceIte]
    rw [bind_of_ok hnode]
    rfl
  rw [ofTokens?, StateT.run, hdocument]
  rfl

end Node

end WizardLogic.Yaml
