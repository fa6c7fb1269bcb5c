import WizardLogic.Value

/-!
# JSON values

Values are more general than JSON: their numbers may be infinite, and their objects may have keys of
other kinds. This file tells which values JSON can write down (`Value.IsJson`) and looks up the
fields of objects by texts. Its result is that a JSON value is equal to itself
(`Value.IsJson.looseEq_self`), which comparing by value does not give for all values.
-/

namespace WizardLogic

/-- The keys that a text names are the text. -/
theorem Key.str_same {s : String} {k : Key} : (Key.str s).same k = true ↔ k = .str s := by
  cases k with
  | str t => simp [same, eq_comm]
  | _ => simp [same]

/-! ### Looking up texts -/

namespace Entries

variable {α : Type} {es : Entries α} {s : String} {v : α}

theorem mem_keys_of_mem {k : Key} (h : (k, v) ∈ es) : k ∈ es.keys := List.mem_map_of_mem h

theorem get?_append (k : Key) (es es' : Entries α) :
    get? k (es ++ es') = (get? k es).or (get? k es') := by
  induction es with
  | nil => rfl
  | cons e es ih =>
    obtain ⟨k', v⟩ := e
    rw [List.cons_append, get?, get?, ih]
    split <;> rfl

theorem mem_of_get? (h : get? (.str s) es = some v) : (.str s, v) ∈ es := by
  induction es with
  | nil => cases h
  | cons e es ih =>
    obtain ⟨k, w⟩ := e
    rw [get?] at h
    split at h
    · next hk =>
      rw [Key.str_same.mp hk, ← Option.some.inj h]
      exact List.mem_cons_self
    · exact List.mem_cons_of_mem _ (ih h)

theorem get?_eq_none : get? (.str s) es = none ↔ .str s ∉ es.keys := by
  induction es with
  | nil => simp [get?, keys]
  | cons e es ih =>
    obtain ⟨k, w⟩ := e
    rw [get?]
    split
    · next hk => simp [keys, Key.str_same.mp hk]
    · next hk =>
      rw [ih]
      have hne : k ≠ .str s := fun h => hk (Key.str_same.mpr h)
      simp [keys, hne.symm]

theorem contains_eq_true : es.contains (.str s) = true ↔ .str s ∈ es.keys := by
  rw [contains, Option.isSome_iff_ne_none, Ne, get?_eq_none, Decidable.not_not]

theorem contains_eq_false : es.contains (.str s) = false ↔ .str s ∉ es.keys := by
  rw [← contains_eq_true, Bool.not_eq_true]

/-- Where no key occurs twice, every entry is found under its key. -/
theorem get?_of_mem (hnodup : es.keys.Nodup) (h : (.str s, v) ∈ es) :
    get? (.str s) es = some v := by
  induction es with
  | nil => cases h
  | cons e es ih =>
    obtain ⟨k, w⟩ := e
    obtain ⟨hk, hrest⟩ := List.nodup_cons.mp hnodup
    rw [get?]
    rcases List.mem_cons.mp h with heq | hmem
    · obtain ⟨rfl, rfl⟩ := Prod.mk.inj heq
      exact if_pos (Key.str_same.mpr rfl)
    · have hne : k ≠ .str s := by
        rintro rfl
        exact hk (mem_keys_of_mem hmem)
      rw [if_neg (fun hsame => hne (Key.str_same.mp hsame))]
      exact ih hrest hmem

/-- What is written under a text is found there. -/
theorem get?_insert_self (s : String) (v : α) (es : Entries α) :
    get? (.str s) (es.insert (.str s) v) = some v := by
  induction es with
  | nil => rw [insert, get?, if_pos (Key.str_same.mpr rfl)]
  | cons e es ih =>
    obtain ⟨k, w⟩ := e
    by_cases hk : (Key.str s).same k = true
    · rw [insert, if_pos hk, get?, if_pos hk]
    · rw [insert, if_neg hk, get?, if_neg hk, ih]

/-- A new text goes to the end. -/
theorem insert_of_not_mem {s : String} {v : α} {es : Entries α} (h : .str s ∉ es.keys) :
    insert (.str s) v es = es ++ [(.str s, v)] := by
  induction es with
  | nil => rfl
  | cons e es ih =>
    obtain ⟨k, w⟩ := e
    obtain ⟨hne, hrest⟩ := not_or.mp (mt List.mem_cons.mpr h)
    have hsame : (Key.str s).same k ≠ true := fun hs => hne (Key.str_same.mp hs).symm
    rw [insert, if_neg hsame, ih hrest, List.cons_append]

theorem merge_eq_append {es new : Entries α} (htexts : ∀ k ∈ new.keys, ∃ s, k = .str s)
    (hnodup : (es ++ new).keys.Nodup) : merge es new = es ++ new := by
  induction new generalizing es with
  | nil => exact (List.append_nil es).symm
  | cons e new ih =>
    obtain ⟨k, v⟩ := e
    obtain ⟨⟨s, rfl⟩, hrest⟩ := List.forall_mem_cons.mp htexts
    have hfresh : .str s ∉ es.keys := by
      intro hmem
      rw [keys, List.map_append] at hnodup
      exact (List.nodup_append.mp hnodup).2.2 _ hmem _ List.mem_cons_self rfl
    have happend : es ++ (Key.str s, v) :: new = es ++ [(.str s, v)] ++ new := by simp
    have hstep : merge es ((.str s, v) :: new) = merge (insert (.str s) v es) new := rfl
    rw [hstep, insert_of_not_mem hfresh, happend]
    exact ih hrest (happend ▸ hnodup)

/-- **Entries under distinct texts are an object as they are.** -/
theorem ofList_eq_self {es : Entries α} (htexts : ∀ k ∈ es.keys, ∃ s, k = .str s)
    (hnodup : es.keys.Nodup) : ofList es = es :=
  merge_eq_append htexts hnodup

end Entries

namespace Value

/-- The value under a text, where an object has one. -/
theorem field_obj_of_get? {es : Entries Value} {s : String} {v : Value}
    (h : es.get? (.str s) = some v) : (obj es).field s = v := by
  rw [field, get?, h, Option.getD_some]

theorem field_obj_of_not_mem {es : Entries Value} {s : String} (h : .str s ∉ es.keys) :
    (obj es).field s = null := by
  rw [field, get?, Entries.get?_eq_none.mpr h, Option.getD_none]

/-! ### JSON -/

/-- **The values that JSON can write down**: numbers are finite, and the keys of an object are texts
of which none occurs twice. -/
inductive IsJson : Value → Prop
  | null : IsJson null
  | bool (b : Bool) : IsJson (bool b)
  | int (n : Int) : IsJson (int n)
  | float {d : Double} : d.isFinite = true → IsJson (float d)
  | str (s : String) : IsJson (str s)
  | list {items : List Value} : (∀ v ∈ items, IsJson v) → IsJson (list items)
  | obj {es : Entries Value} : (∀ k ∈ es.keys, ∃ s, k = .str s) → es.keys.Nodup →
      (∀ e ∈ es, IsJson e.2) → IsJson (obj es)

theorem isJson_list {items : List Value} :
    (list items).IsJson ↔ ∀ v ∈ items, v.IsJson :=
  ⟨fun h => by cases h; assumption, .list⟩

theorem isJson_obj {es : Entries Value} : (obj es).IsJson ↔
    (∀ k ∈ es.keys, ∃ s, k = .str s) ∧ es.keys.Nodup ∧ ∀ e ∈ es, e.2.IsJson :=
  ⟨fun h => by cases h; exact ⟨by assumption, by assumption, by assumption⟩,
    fun ⟨hkeys, hnodup, hvalues⟩ => .obj hkeys hnodup hvalues⟩

theorem looseEqList_self {items : List Value} (h : ∀ v ∈ items, v.looseEq v = true) :
    looseEqList items items = true := by
  induction items with
  | nil => rfl
  | cons v vs ih =>
    obtain ⟨hv, hvs⟩ := List.forall_mem_cons.mp h
    rw [looseEqList, hv, ih hvs, Bool.and_self]

/-- Every entry of one object is in another if each of the former is found there under its key. -/
theorem looseEqEntries_of_get? {es other : Entries Value}
    (h : ∀ e ∈ es, ∃ w, other.get? e.1 = some w ∧ e.2.looseEq w = true) :
    looseEqEntries es other = true := by
  induction es with
  | nil => rw [looseEqEntries]
  | cons e es ih =>
    obtain ⟨⟨w, hw, heq⟩, hes⟩ := List.forall_mem_cons.mp h
    rw [looseEqEntries, hw, ih hes, Bool.and_true]
    exact heq

/-- An entry of an object that is in another one is equal to what is found there under its key. -/
theorem looseEq_of_looseEqEntries {es other : Entries Value}
    (h : looseEqEntries es other = true) {e : Key × Value} (he : e ∈ es) {w : Value}
    (hw : other.get? e.1 = some w) : e.2.looseEq w = true := by
  induction es with
  | nil => cases he
  | cons e' es ih =>
    rw [looseEqEntries, Bool.and_eq_true_iff] at h
    rcases List.mem_cons.mp he with rfl | he
    · have hhead := h.1
      rw [hw] at hhead
      exact hhead
    · exact ih h.2 he

/-- Lists that are equal are equal item by item. -/
theorem looseEqList_cons {a b : Value} {as bs : List Value} :
    looseEqList (a :: as) (b :: bs) = true ↔ a.looseEq b = true ∧ looseEqList as bs = true := by
  rw [looseEqList, Bool.and_eq_true_iff]

/-- **A JSON value is equal to itself.** -/
theorem IsJson.looseEq_self {v : Value} (h : v.IsJson) : v.looseEq v = true := by
  induction h with
  | null => rfl
  | bool b => simp [looseEq]
  | int n => simp [looseEq]
  | @float d hd =>
    cases d with
    | finite neg m q h => simp [looseEq, Double.compare?]
    | _ => cases hd
  | str s => simp [looseEq]
  | list _ ih => rw [looseEq, looseEqList_self ih]
  | @obj es hkeys hnodup _ ih =>
    -- Every entry is found under its own key, because no key occurs twice.
    have hentries : looseEqEntries es es = true := by
      refine looseEqEntries_of_get? fun e he => ?_
      obtain ⟨k, v⟩ := e
      obtain ⟨s, rfl⟩ := hkeys k (Entries.mem_keys_of_mem he)
      exact ⟨v, Entries.get?_of_mem hnodup he, ih _ he⟩
    simp [looseEq, hentries]

end Value

end WizardLogic
