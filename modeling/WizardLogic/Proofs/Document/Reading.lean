import WizardLogic.Document.Printer
import WizardLogic.Document.Reader
import WizardLogic.Proofs.Document.Json

/-!
# Readings that succeed

A reading of several parts succeeds exactly when the readings of all parts do
(`Reading.seq_eq_pure`), and a field is read from its first spelling that is there. For each leaf of
a document this file says that what was read is read again from what is written for it. Most leaves
are read from anything that may be written for them; names and addresses are read only where they
have been read before, because they are texts of a certain form.
-/

namespace WizardLogic

namespace Reading

variable {α β : Type}

/-! ### Putting readings together -/

theorem pure_inj {a b : α} : (pure a : Reading α) = pure b ↔ a = b :=
  ⟨Except.ok.inj, congrArg pure⟩

theorem seq_eq_pure {f : Reading (α → β)} {a : Reading α} {b : β} :
    f <*> a = pure b ↔ ∃ g x, f = pure g ∧ a = pure x ∧ g x = b := by
  change both f (fun _ => a) = pure b ↔ _
  rcases f with issues | g <;> rcases a with more | x
  · exact ⟨nofun, fun ⟨_, _, h, _⟩ => nomatch h⟩
  · exact ⟨nofun, fun ⟨_, _, h, _⟩ => nomatch h⟩
  · exact ⟨nofun, fun ⟨_, _, _, h, _⟩ => nomatch h⟩
  · refine ⟨fun h => ⟨g, x, rfl, rfl, pure_inj.mp h⟩, ?_⟩
    rintro ⟨g', x', hg, hx, rfl⟩
    rw [pure_inj.mp hg, pure_inj.mp hx]
    rfl

theorem map_eq_pure {f : α → β} {a : Reading α} {b : β} :
    f <$> a = pure b ↔ ∃ x, a = pure x ∧ f x = b := by
  refine (seq_eq_pure (f := pure f)).trans ⟨?_, ?_⟩
  · rintro ⟨g, x, hg, hx, rfl⟩
    exact ⟨x, hx, by rw [pure_inj.mp hg]⟩
  · rintro ⟨x, hx, rfl⟩
    exact ⟨f, x, rfl, hx, rfl⟩

theorem under_eq_pure {place : Value} {r : Reading α} {a : α} :
    under place r = pure a ↔ r = pure a := by
  cases r with
  | error issues => exact ⟨nofun, nofun⟩
  | ok b => exact Iff.rfl

/-- A result that is given only if there are no issues. -/
theorem ite_isEmpty_eq_pure {bad : List Issue} {a b : α} :
    (if bad.isEmpty then pure a else Except.error bad : Reading α) = pure b ↔ bad = [] ∧ a = b := by
  cases bad with
  | nil => exact pure_inj.trans ⟨fun h => ⟨rfl, h⟩, And.right⟩
  | cons issue issues => exact ⟨nofun, fun h => nomatch h.1⟩

theorem issue_ne_pure {kind : IssueKind} {a : α} : issue kind ≠ pure a := nofun

/-! ### Leaves -/

theorem text_str (s : String) : text (.str s) = pure s := rfl

theorem integer_int (n : Int) : integer (.int n) = pure n := rfl

theorem eq_of_nonEmptyText {v : Value} {s : String} (h : nonEmptyText v = pure s) :
    v = .str s := by
  cases v with
  | str t =>
    rw [nonEmptyText] at h
    split at h
    · exact absurd h issue_ne_pure
    · rw [pure_inj.mp h]
  | _ => exact absurd h issue_ne_pure

theorem eq_of_name {v : Value} {s : String} (h : name v = pure s) : v = .str s := by
  cases v with
  | str t =>
    rw [name] at h
    split at h
    · rw [pure_inj.mp h]
    · exact absurd h issue_ne_pure
  | _ => exact absurd h issue_ne_pure

theorem eq_of_descriptor {v w : Value} (h : descriptor v = pure w) : v = w := by
  cases v with
  | obj es => exact (ite_isEmpty_eq_pure.mp h).2
  | _ => exact absurd h issue_ne_pure

theorem optional_text_ofText? (s : Option String) : optional text (.ofText? s) = pure s := by
  cases s <;> rfl

theorem word_str {ofName? : String → Option α} {s : String} {a : α} (h : ofName? s = some a) :
    word ofName? (.str s) = pure a := by
  rw [word, h]

/-! ### Lists -/

theorem items_cons_eq_pure {read : Value → Reading α} {i : Nat} {v : Value} {vs : List Value}
    {as : List α} :
    items read i (v :: vs) = pure as ↔
      ∃ a rest, read v = pure a ∧ items read (i + 1) vs = pure rest ∧ a :: rest = as := by
  rw [items, seq_eq_pure]
  constructor
  · rintro ⟨g, rest, hg, hrest, rfl⟩
    obtain ⟨a, ha, rfl⟩ := map_eq_pure.mp hg
    exact ⟨a, rest, under_eq_pure.mp ha, hrest, rfl⟩
  · rintro ⟨a, rest, ha, hrest, rfl⟩
    exact ⟨List.cons a, rest, map_eq_pure.mpr ⟨a, under_eq_pure.mpr ha, rfl⟩, hrest, rfl⟩

theorem exists_items_of_list {read : Value → Reading α} {v : Value} {as : List α}
    (h : list read v = pure as) : ∃ vs, v = .list vs ∧ items read 0 vs = pure as := by
  cases v with
  | list vs => exact ⟨vs, rfl, h⟩
  | _ => exact absurd h issue_ne_pure

/-- What has been read from a list has been read from its items. -/
theorem exists_of_mem_items {read : Value → Reading α} {i : Nat} {vs : List Value} {as : List α}
    (h : items read i vs = pure as) {a : α} (ha : a ∈ as) : ∃ v ∈ vs, read v = pure a := by
  induction vs generalizing i as with
  | nil =>
    rw [← pure_inj.mp h] at ha
    cases ha
  | cons v vs ih =>
    obtain ⟨b, rest, hb, hrest, rfl⟩ := items_cons_eq_pure.mp h
    rcases List.mem_cons.mp ha with rfl | ha
    · exact ⟨v, List.mem_cons_self, hb⟩
    · obtain ⟨w, hw, hread⟩ := ih hrest ha
      exact ⟨w, List.mem_cons_of_mem v hw, hread⟩

/-- A list is read again from what is written for its items, if each of them is. -/
theorem items_map {read : Value → Reading α} {write : α → Value} {as : List α}
    (h : ∀ a ∈ as, read (write a) = pure a) (i : Nat) :
    items read i (as.map write) = pure as := by
  induction as generalizing i with
  | nil => rfl
  | cons a as ih =>
    obtain ⟨ha, has⟩ := List.forall_mem_cons.mp h
    exact items_cons_eq_pure.mpr ⟨a, as, ha, ih has (i + 1), rfl⟩

/-! ### Fields -/

theorem exists_of_fieldOr {es : Entries Value} {spellings : List String} {absent a : α}
    {read : Value → Reading α} (h : fieldOr es spellings absent read = pure a) :
    a = absent ∨ ∃ s ∈ spellings, read ((Value.obj es).field s) = pure a := by
  unfold fieldOr at h
  cases hs : spelling? es spellings with
  | none =>
    rw [hs] at h
    exact Or.inl (pure_inj.mp h).symm
  | some s =>
    rw [hs] at h
    exact Or.inr ⟨s, List.mem_of_find?_eq_some hs, under_eq_pure.mp h⟩

theorem exists_of_field {es : Entries Value} {spellings : List String} {a : α}
    {read : Value → Reading α} (h : field es spellings read = pure a) :
    ∃ s, read ((Value.obj es).field s) = pure a := by
  unfold field at h
  cases hs : spelling? es spellings with
  | none =>
    rw [hs] at h
    exact absurd (under_eq_pure.mp h) issue_ne_pure
  | some s =>
    rw [hs] at h
    exact ⟨s, under_eq_pure.mp h⟩

theorem fieldOr_singleton {es : Entries Value} {s : String} {absent : α}
    {read : Value → Reading α} :
    (if Entries.contains (.str s) es then under (.str s) (read ((Value.obj es).field s))
      else pure absent) = fieldOr es [s] absent read := by
  cases hs : Entries.contains (.str s) es <;> simp [fieldOr, spelling?, hs]

/-- Whether none of an object's fields is spelled like a key. -/
def isUnknown (es : Entries Value) (fields : List (List String)) : Key → Bool
  | .str s => !(fields.filterMap (spelling? es)).contains s
  | _ => true

theorem unknownFields_eq_pure {es extra : Entries Value} {fields : List (List String)} :
    unknownFields es fields = pure extra ↔
      es.filter (fun e => isUnknown es fields e.1) = extra ∧ ∀ k ∈ extra.keys, ∃ s, k = .str s := by
  let badKey (e : Key × Value) : Option Issue := match e.1 with
    | .str _ => none
    | k => some ⟨[Value.ofKey k], .invalidKey⟩
  let rest := es.filter fun e => isUnknown es fields e.1
  refine (@ite_isEmpty_eq_pure _ (rest.filterMap badKey) rest extra).trans ?_
  rw [List.filterMap_eq_nil_iff, and_comm]
  refine and_congr_right ?_
  rintro rfl
  refine ⟨fun h k hk => ?_, fun h e he => ?_⟩
  · obtain ⟨⟨k, v⟩, he, rfl⟩ := List.mem_map.mp hk
    cases k with
    | str s => exact ⟨s, rfl⟩
    | _ => exact nomatch h _ he
  · obtain ⟨k, v⟩ := e
    obtain ⟨s, rfl⟩ := h k (Entries.mem_keys_of_mem he)
    rfl

end Reading

end WizardLogic
