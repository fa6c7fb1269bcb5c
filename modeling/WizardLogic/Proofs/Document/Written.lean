import Mathlib.Data.List.Nodup
import Mathlib.Data.List.Pairwise
import WizardLogic.Proofs.Document.Reading

/-!
# Objects written and read again

Every part of a document is written as an object of declared fields and unknown ones, and nulls are
left out. This file says what reading such an object again gives, for all parts of a document at
once. A declared field (`Declared`) has a name under which it is written, and other spellings under
which it may be read; the unknown fields of an object that was read have none of the names
(`Separate`).

A declared field that is not null is read again from what was written for it. One that is null is
absent from what was written, and then an unknown field with one of its other spellings is read in
its place. So writing and reading keeps the unknown fields exactly if none of them is null and none
of them is spelled like a declared field that is null (`keepsExtra`).
-/

namespace WizardLogic

/-- A declared field of an object. -/
structure Declared where
  /-- The spelling under which the field is written. -/
  name : String
  /-- The further spellings under which it is read. -/
  others : List String
  /-- What is written for it. -/
  value : Value

namespace Declared

/-- All spellings of a field, the one in which it is written first. -/
def spellings (d : Declared) : List String := d.name :: d.others

/-- The entry that a field is in the object. -/
def entry (d : Declared) : Key × Value := (.str d.name, d.value)

end Declared

/-- The entries that are written of an object without its nulls. -/
def writtenEntries (ds : List Declared) (extra : Entries Value) : Entries Value :=
  (ds.map Declared.entry ++ extra).filter fun e => !e.2.isNull

/-- An object with the given declared and unknown fields. -/
def Nulls.objectOf (nulls : Nulls) (ds : List Declared) (extra : Entries Value) : Value :=
  nulls.object (ds.map fun d => (d.name, d.value)) extra

theorem Nulls.objectOf_kept (ds : List Declared) (extra : Entries Value) :
    Nulls.kept.objectOf ds extra = .obj (ds.map Declared.entry ++ extra) := by
  rw [objectOf, object, List.map_map]
  rfl

theorem Nulls.objectOf_dropped (ds : List Declared) (extra : Entries Value) :
    Nulls.dropped.objectOf ds extra = .obj (writtenEntries ds extra) := by
  rw [objectOf, object, List.map_map]
  rfl

/-- The declared fields of an object differ in all their spellings, and its unknown fields are
spelled unlike the names of the declared ones. -/
structure Separate (ds : List Declared) (extra : Entries Value) : Prop where
  nodup : (ds.flatMap Declared.spellings).Nodup
  keys : ∀ k ∈ extra.keys, ∃ s, k = .str s
  unused : ∀ d ∈ ds, .str d.name ∉ extra.keys

variable {ds : List Declared} {d : Declared} {extra : Entries Value}

/-! ### Unknown fields that have been read -/

namespace Reading

theorem spelling?_eq_some_name {es : Entries Value} (h : .str d.name ∈ es.keys) :
    spelling? es d.spellings = some d.name :=
  List.find?_cons_of_pos (Entries.contains_eq_true.mpr h)

theorem mem_keys_of_spelling? {es : Entries Value} {spellings : List String} {s : String}
    (h : spelling? es spellings = some s) : s ∈ spellings ∧ .str s ∈ es.keys := by
  unfold spelling? at h
  have hcontains := List.find?_some h
  exact ⟨List.mem_of_find?_eq_some h, Entries.contains_eq_true.mp hcontains⟩

theorem spelling?_eq_none {es : Entries Value} {spellings : List String} :
    spelling? es spellings = none ↔ ∀ s ∈ spellings, .str s ∉ es.keys := by
  simp [spelling?, List.find?_eq_none, Entries.contains_eq_false]

theorem isUnknown_str {es : Entries Value} {s : String} :
    isUnknown es (ds.map Declared.spellings) (.str s) = true ↔
      ∀ d ∈ ds, spelling? es d.spellings ≠ some s := by
  simp [isUnknown]

end Reading

/-- The unknown fields of an object that was read are separate from its declared fields. -/
theorem Separate.of_unknownFields {es : Entries Value}
    (hnodup : (ds.flatMap Declared.spellings).Nodup)
    (h : Reading.unknownFields es (ds.map Declared.spellings) = pure extra) :
    Separate ds extra := by
  obtain ⟨rfl, hkeys⟩ := Reading.unknownFields_eq_pure.mp h
  refine ⟨hnodup, hkeys, fun d hd hmem => ?_⟩
  obtain ⟨⟨k, v⟩, he, rfl⟩ := List.mem_map.mp hmem
  obtain ⟨hes, hunknown⟩ := List.mem_filter.mp he
  have hspelling := Reading.spelling?_eq_some_name (Entries.mem_keys_of_mem hes)
  exact Reading.isUnknown_str.mp hunknown d hd hspelling

/-! ### What is written -/

/-- The unknown fields of an object survive writing and reading it: none is null, and none is
spelled like a declared field that is null. -/
def keepsExtra (ds : List Declared) (extra : Entries Value) : Bool :=
  extra.all (fun e => !e.2.isNull) &&
    ds.all fun d => !d.value.isNull || d.others.all fun s => !extra.contains (.str s)

theorem keepsExtra_eq_true : keepsExtra ds extra = true ↔
    (∀ e ∈ extra, e.2.isNull = false) ∧
      ∀ d ∈ ds, d.value.isNull = true → ∀ s ∈ d.others, .str s ∉ extra.keys := by
  simp [keepsExtra, Entries.contains_eq_false, or_iff_not_imp_left]

/-- The keys of the declared fields are their names. -/
theorem keys_entries (ds : List Declared) :
    Entries.keys (ds.map Declared.entry) = (ds.map Declared.name).map Key.str := by
  rw [Entries.keys, List.map_map, List.map_map]
  rfl

theorem names_sublist_spellings (ds : List Declared) :
    (ds.map Declared.name).Sublist (ds.flatMap Declared.spellings) := by
  induction ds with
  | nil => exact .slnil
  | cons d ds ih => exact (ih.trans (List.sublist_append_right d.others _)).cons_cons d.name

/-- What is written under a text is a declared field of that name or an unknown field. -/
theorem mem_keys_writtenEntries {s : String} : .str s ∈ (writtenEntries ds extra).keys ↔
    (∃ d ∈ ds, d.name = s ∧ d.value.isNull = false) ∨
      ∃ v, (.str s, v) ∈ extra ∧ v.isNull = false := by
  simp only [writtenEntries, Entries.keys, List.mem_map, List.mem_filter, List.mem_append]
  constructor
  · rintro ⟨⟨k, v⟩, ⟨⟨d, hd, heq⟩ | hv, hnull⟩, rfl⟩
    · obtain ⟨hname, rfl⟩ := Prod.mk.inj heq
      exact Or.inl ⟨d, hd, Key.str.inj hname, by simpa using hnull⟩
    · exact Or.inr ⟨v, hv, by simpa using hnull⟩
  · rintro (⟨d, hd, rfl, hnull⟩ | ⟨v, hv, hnull⟩)
    · exact ⟨d.entry, ⟨Or.inl ⟨d, hd, rfl⟩, by simpa [Declared.entry] using hnull⟩, rfl⟩
    · exact ⟨(.str s, v), ⟨Or.inr hv, by simpa using hnull⟩, rfl⟩

namespace Separate

theorem nodup_names (h : Separate ds extra) :
    (Entries.keys (ds.map Declared.entry)).Nodup := by
  rw [keys_entries]
  exact (h.nodup.sublist (names_sublist_spellings ds)).map fun _ _ => Key.str.inj

/-- A spelling belongs to one declared field only. -/
theorem eq_of_mem_spellings (h : Separate ds extra) {d' : Declared} (hd : d ∈ ds) (hd' : d' ∈ ds)
    {s : String} (hs : s ∈ d.spellings) (hs' : s ∈ d'.spellings) : d = d' := by
  by_contra hne
  obtain ⟨-, hdisjoint⟩ := List.nodup_flatMap.mp h.nodup
  have : Std.Symm (Function.onFun List.Disjoint Declared.spellings) :=
    ⟨fun _ _ hdis _ hs hs' => hdis hs' hs⟩
  exact hdisjoint.forall hd hd' hne hs hs'

/-- A declared field that is null is not written, not even by an unknown field. -/
theorem name_not_mem_writtenEntries (h : Separate ds extra) (hd : d ∈ ds)
    (hnull : d.value.isNull = true) : .str d.name ∉ (writtenEntries ds extra).keys := by
  rw [mem_keys_writtenEntries]
  rintro (⟨d', hd', hname, hnull'⟩ | ⟨v, hv, -⟩)
  · have hspelling : d.name ∈ d'.spellings := hname ▸ List.mem_cons_self
    obtain rfl := h.eq_of_mem_spellings hd hd' List.mem_cons_self hspelling
    rw [hnull] at hnull'
    cases hnull'
  · exact h.unused d hd (Entries.mem_keys_of_mem hv)

/-- A declared field that is not null is written under its name. -/
theorem get?_writtenEntries (h : Separate ds extra) (hd : d ∈ ds)
    (hnull : d.value.isNull = false) :
    (writtenEntries ds extra).get? (.str d.name) = some d.value := by
  have hmem : (.str d.name, d.value) ∈ (ds.map Declared.entry).filter fun e => !e.2.isNull :=
    List.mem_filter.mpr ⟨List.mem_map_of_mem hd, by simpa using hnull⟩
  have hnodup : (Entries.keys ((ds.map Declared.entry).filter fun e => !e.2.isNull)).Nodup :=
    h.nodup_names.sublist (List.filter_sublist.map Prod.fst)
  rw [writtenEntries, List.filter_append, Entries.get?_append,
    Entries.get?_of_mem hnodup hmem, Option.some_or]

/-- What is written for a declared field is found in its place. -/
theorem field_writtenEntries (h : Separate ds extra) (hd : d ∈ ds) :
    (Value.obj (writtenEntries ds extra)).field d.name = d.value := by
  cases hnull : d.value.isNull with
  | true =>
    rw [Value.field_obj_of_not_mem (h.name_not_mem_writtenEntries hd hnull)]
    cases hd : d.value with
    | null => rfl
    | _ =>
      rw [hd] at hnull
      cases hnull
  | false => exact Value.field_obj_of_get? (h.get?_writtenEntries hd hnull)

end Separate

/-! ### Reading what was written -/

section Read

variable {α : Type} {absent a : α} {read : Value → Reading α}

/-- A declared field that is not null is read from what was written for it. -/
theorem Separate.fieldOr_writtenEntries (h : Separate ds extra) (hd : d ∈ ds)
    (hnull : d.value.isNull = false) :
    Reading.fieldOr (writtenEntries ds extra) d.spellings absent read =
      Reading.under (.str d.name) (read d.value) := by
  have hmem := Entries.mem_keys_of_mem (Entries.mem_of_get? (h.get?_writtenEntries hd hnull))
  rw [Reading.fieldOr, Reading.spelling?_eq_some_name hmem]
  dsimp only
  rw [h.field_writtenEntries hd]

/-- Where unknown fields are kept, none is read in the place of a declared one that is null. -/
theorem Separate.spelling?_writtenEntries (h : Separate ds extra)
    (hkeep : keepsExtra ds extra = true) (hd : d ∈ ds) (hnull : d.value.isNull = true) :
    Reading.spelling? (writtenEntries ds extra) d.spellings = none := by
  rw [Reading.spelling?_eq_none]
  intro s hs
  rcases List.mem_cons.mp hs with rfl | hs
  · exact h.name_not_mem_writtenEntries hd hnull
  · rw [mem_keys_writtenEntries]
    rintro (⟨d', hd', rfl, hnull'⟩ | ⟨v, hv, -⟩)
    · have hspelling : d'.name ∈ d.spellings := List.mem_cons_of_mem d.name hs
      obtain rfl := h.eq_of_mem_spellings hd hd' hspelling List.mem_cons_self
      rw [hnull] at hnull'
      cases hnull'
    · exact (keepsExtra_eq_true.mp hkeep).2 d hd hnull s hs (Entries.mem_keys_of_mem hv)

/-- **A declared field is read again.** If it is null, nothing else is read in its place. -/
theorem Separate.fieldOr_eq_pure (h : Separate ds extra) (hkeep : keepsExtra ds extra = true)
    (hd : d ∈ ds) (hread : d.value.isNull = false → read d.value = pure a)
    (habsent : d.value.isNull = true → absent = a) :
    Reading.fieldOr (writtenEntries ds extra) d.spellings absent read = pure a := by
  cases hnull : d.value.isNull with
  | true =>
    rw [Reading.fieldOr, h.spelling?_writtenEntries hkeep hd hnull]
    exact congrArg pure (habsent hnull)
  | false =>
    rw [h.fieldOr_writtenEntries hd hnull]
    exact Reading.under_eq_pure.mpr (hread hnull)

/-- A declared field that has to be present is read from what was written for it. -/
theorem Separate.requiredField_writtenEntries (h : Separate ds extra) (hd : d ∈ ds)
    (hnull : d.value.isNull = false) :
    Reading.field (writtenEntries ds extra) d.spellings read =
      Reading.under (.str d.name) (read d.value) := by
  have hmem := Entries.mem_keys_of_mem (Entries.mem_of_get? (h.get?_writtenEntries hd hnull))
  rw [Reading.field, Reading.spelling?_eq_some_name hmem]
  dsimp only
  rw [h.field_writtenEntries hd]

end Read

/-- What is written of an object and not read as a declared field was an unknown field, and one that
is not null. -/
theorem Separate.unknownFields_writtenEntries (h : Separate ds extra) :
    Reading.unknownFields (writtenEntries ds extra) (ds.map Declared.spellings) =
      pure (extra.filter fun e => !e.2.isNull &&
        Reading.isUnknown (writtenEntries ds extra) (ds.map Declared.spellings) e.1) := by
  refine Reading.unknownFields_eq_pure.mpr ⟨?_, ?_⟩
  · have hdeclared : ((ds.map Declared.entry).filter fun e => !e.2.isNull).filter (fun e =>
        Reading.isUnknown (writtenEntries ds extra) (ds.map Declared.spellings) e.1) = [] := by
      rw [List.filter_eq_nil_iff]
      intro e he hunknown
      obtain ⟨hmem, hnull⟩ := List.mem_filter.mp he
      obtain ⟨d, hd, rfl⟩ := List.mem_map.mp hmem
      have hkey : .str d.name ∈ (writtenEntries ds extra).keys :=
        mem_keys_writtenEntries.mpr (Or.inl ⟨d, hd, rfl, by simpa [Declared.entry] using hnull⟩)
      exact Reading.isUnknown_str.mp hunknown d hd (Reading.spelling?_eq_some_name hkey)
    generalize Reading.isUnknown (writtenEntries ds extra) (ds.map Declared.spellings) = unknown
      at hdeclared ⊢
    rw [writtenEntries, List.filter_append, List.filter_append, hdeclared, List.nil_append,
      List.filter_filter]
    exact List.filter_congr fun e _ => Bool.and_comm _ _
  · intro k hk
    exact h.keys k ((List.filter_sublist.map Prod.fst).mem hk)

/-- **The unknown fields that are kept are read again.** -/
theorem Separate.unknownFields_eq_pure (h : Separate ds extra)
    (hkeep : keepsExtra ds extra = true) :
    Reading.unknownFields (writtenEntries ds extra) (ds.map Declared.spellings) = pure extra := by
  rw [h.unknownFields_writtenEntries]
  refine congrArg pure (List.filter_eq_self.mpr fun e he => ?_)
  obtain ⟨hnotNull, hother⟩ := keepsExtra_eq_true.mp hkeep
  obtain ⟨k, v⟩ := e
  obtain ⟨s, rfl⟩ := h.keys k (Entries.mem_keys_of_mem he)
  rw [hnotNull _ he]
  refine Reading.isUnknown_str.mpr fun d hd hspelling => ?_
  -- An unknown field can be read in the place of a declared one only by one of its other spellings.
  have hkey := Entries.mem_keys_of_mem he
  cases hnull : d.value.isNull with
  | true =>
    rw [h.spelling?_writtenEntries hkeep hd hnull] at hspelling
    cases hspelling
  | false =>
    have hmem := Entries.mem_keys_of_mem (Entries.mem_of_get? (h.get?_writtenEntries hd hnull))
    rw [Reading.spelling?_eq_some_name hmem] at hspelling
    exact h.unused d hd (Option.some.inj hspelling ▸ hkey)

/-- **Unknown fields that are not kept are fewer when they are read again.** -/
theorem Separate.keepsExtra_of_unknownFields (h : Separate ds extra) {extra' : Entries Value}
    (hread : Reading.unknownFields (writtenEntries ds extra) (ds.map Declared.spellings) =
      pure extra')
    (hlength : extra.length = extra'.length) : keepsExtra ds extra = true := by
  rw [h.unknownFields_writtenEntries] at hread
  obtain rfl := Reading.pure_inj.mp hread
  have hall := List.length_filter_eq_length_iff.mp hlength.symm
  have hnotNull : ∀ e ∈ extra, e.2.isNull = false := fun e he => by
    simpa using (Bool.and_eq_true_iff.mp (hall e he)).1
  refine keepsExtra_eq_true.mpr ⟨hnotNull, fun d hd hnull s hs hkey => ?_⟩
  -- Some spelling of the field would be read in its place, and it is that of an unknown field.
  have hwritten {t : String} (ht : .str t ∈ extra.keys) :
      .str t ∈ (writtenEntries ds extra).keys := by
    obtain ⟨⟨k, v⟩, hv, rfl⟩ := List.mem_map.mp ht
    exact mem_keys_writtenEntries.mpr (Or.inr ⟨v, hv, hnotNull _ hv⟩)
  cases hspelling : Reading.spelling? (writtenEntries ds extra) d.spellings with
  | none =>
    exact Reading.spelling?_eq_none.mp hspelling s (List.mem_cons_of_mem d.name hs)
      (hwritten hkey)
  | some t =>
    obtain ⟨ht, htkey⟩ := Reading.mem_keys_of_spelling? hspelling
    rcases mem_keys_writtenEntries.mp htkey with ⟨d', hd', rfl, hnull'⟩ | ⟨v, hv, -⟩
    · obtain rfl := h.eq_of_mem_spellings hd hd' ht List.mem_cons_self
      rw [hnull] at hnull'
      cases hnull'
    · have hunknown := (Bool.and_eq_true_iff.mp (hall _ hv)).2
      exact Reading.isUnknown_str.mp hunknown d hd hspelling

/-! ### Objects with their nulls -/

/-- The unknown fields of a JSON object are JSON. -/
theorem Reading.isJson_of_unknownFields {es : Entries Value} {fields : List (List String)}
    (hjson : (Value.obj es).IsJson) (h : unknownFields es fields = pure extra) :
    extra.keys.Nodup ∧ ∀ e ∈ extra, e.2.IsJson := by
  obtain ⟨rfl, -⟩ := unknownFields_eq_pure.mp h
  cases hjson with
  | obj _ hnodup hvalues =>
    exact ⟨hnodup.sublist (List.filter_sublist.map Prod.fst),
      fun e he => hvalues e (List.mem_of_mem_filter he)⟩

/-- An object is JSON if all its fields are. -/
theorem Separate.isJson_kept (h : Separate ds extra) (hds : ∀ d ∈ ds, d.value.IsJson)
    (hextra : extra.keys.Nodup ∧ ∀ e ∈ extra, e.2.IsJson) :
    (Nulls.kept.objectOf ds extra).IsJson := by
  rw [Nulls.objectOf_kept]
  have hkeys : Entries.keys (ds.map Declared.entry ++ extra) =
      (ds.map Declared.name).map Key.str ++ extra.keys := by
    rw [← keys_entries]
    exact List.map_append
  refine .obj ?_ ?_ ?_
  · rw [hkeys]
    intro k hk
    rcases List.mem_append.mp hk with hk | hk
    · obtain ⟨s, -, rfl⟩ := List.mem_map.mp hk
      exact ⟨s, rfl⟩
    · exact h.keys k hk
  · rw [hkeys, ← keys_entries]
    refine List.nodup_append.mpr ⟨h.nodup_names, hextra.1, ?_⟩
    rintro k hk _ hk' rfl
    rw [keys_entries, List.map_map] at hk
    obtain ⟨d, hd, rfl⟩ := List.mem_map.mp hk
    exact h.unused d hd hk'
  · intro e he
    rcases List.mem_append.mp he with he | he
    · obtain ⟨d, hd, rfl⟩ := List.mem_map.mp he
      exact hds d hd
    · exact hextra.2 e he

/-- Objects that are equal have as many unknown fields and equal declared ones. -/
theorem Separate.of_looseEq_kept (h : Separate ds extra) {ds' : List Declared}
    {extra' : Entries Value}
    (heq : (Nulls.kept.objectOf ds extra).looseEq (Nulls.kept.objectOf ds' extra') = true)
    (hnames : ds.map Declared.name = ds'.map Declared.name) :
    extra.length = extra'.length ∧
      ∀ d ∈ ds, ∀ d' ∈ ds', d.name = d'.name → d.value.looseEq d'.value = true := by
  rw [Nulls.objectOf_kept, Nulls.objectOf_kept, Value.looseEq, Bool.and_eq_true_iff,
    decide_eq_true_eq, List.length_append, List.length_append, List.length_map,
    List.length_map] at heq
  obtain ⟨hlength, hentries⟩ := heq
  have hds := congrArg List.length hnames
  rw [List.length_map, List.length_map] at hds
  refine ⟨by omega, fun d hd d' hd' hname => ?_⟩
  have hnodup : (Entries.keys (ds'.map Declared.entry)).Nodup := by
    rw [keys_entries, ← hnames, ← keys_entries]
    exact h.nodup_names
  have hmem : (.str d.name, d'.value) ∈ ds'.map Declared.entry :=
    List.mem_map.mpr ⟨d', hd', by rw [hname]; rfl⟩
  -- The declared fields come first, so a name finds its field and not an unknown one.
  have hfound : Entries.get? (.str d.name) (ds'.map Declared.entry ++ extra') =
      some d'.value := by
    rw [Entries.get?_append, Entries.get?_of_mem hnodup hmem, Option.some_or]
  have hentry := Value.looseEq_of_looseEqEntries hentries
    (List.mem_append_left extra (List.mem_map_of_mem hd)) hfound
  exact hentry

end WizardLogic
