import Mathlib
import WizardLogic.Proofs.Document.Json
import WizardLogic.Proofs.Value.Entries

/-!
# When two values are the same

Two JSON values are the *same* (`Value.Same`) if nothing has to be converted to make them equal:
numbers go by their exact value, whether they are integers or floating-point numbers, a boolean is
the same as itself only, lists are compared element by element, and objects key by key, in whatever
order the keys stand.

Comparing loosely also takes the booleans for the numbers one and zero. So it comes to sameness once
all booleans are written as numbers (`Value.looseEq_iff`). Strict comparing keeps booleans apart at
the outermost level and compares what is inside lists and objects loosely; so it comes to sameness
once the booleans *inside* are written as numbers (`Value.strictEq_iff`). That is not sameness, and
the difference is exactly this: that somewhere a boolean of one value stands where the other has a
number (`Value.Mixed`, `Value.same_iff`).

Objects are looked up, so all of this is about values whose objects have texts as keys and no key
twice (`Value.HasTextKeys`), as all JSON values do.
-/

namespace WizardLogic

namespace Value

/-! ### Sameness -/

/-- The exact value of what is a number; a boolean is none. -/
def amount? : Value → Option (WithBot (WithTop ℤ))
  | int n => some (OrderKey.int n).rank
  | float d => if d.isNan then none else some d.rank
  | _ => none

/-- **Two values are the same** without any conversion, at any depth. -/
inductive Same : Value → Value → Prop
  | null : Same null null
  | bool (b : Bool) : Same (bool b) (bool b)
  /-- Numbers go by their exact value. -/
  | number {v w : Value} {r : WithBot (WithTop ℤ)} : v.amount? = some r → w.amount? = some r →
    Same v w
  | str (s : String) : Same (str s) (str s)
  | list {items items' : List Value} :
    List.Forall₂ Same items items' → Same (list items) (list items')
  /-- Objects have the same under every key. -/
  | obj {es es' : Entries Value} :
    (∀ s : String, Option.Rel Same (Entries.get? (.str s) es) (Entries.get? (.str s) es')) →
      Same (obj es) (obj es')

/-- **A boolean of one value stands where the other has a number**, at any depth. -/
inductive Mixed : Value → Value → Prop
  | left {b : Bool} {v : Value} {r : WithBot (WithTop ℤ)} : v.amount? = some r → Mixed (bool b) v
  | right {v : Value} {b : Bool} {r : WithBot (WithTop ℤ)} : v.amount? = some r → Mixed v (bool b)
  | list {items items' : List Value} {v w : Value} {i : ℕ} : items[i]? = some v →
      items'[i]? = some w → Mixed v w → Mixed (list items) (list items')
  | obj {es es' : Entries Value} {v w : Value} {s : String} : Entries.get? (.str s) es = some v →
      Entries.get? (.str s) es' = some w → Mixed v w → Mixed (obj es) (obj es')

mutual

/-- A value with its booleans written as the numbers that they count as. -/
def counted : Value → Value
  | bool b => int (ofBoolInt b)
  | list items => list (countedItems items)
  | obj es => obj (countedEntries es)
  | v => v

/-- Values with their booleans written as numbers. -/
def countedItems : List Value → List Value
  | [] => []
  | v :: vs => counted v :: countedItems vs

/-- Entries with the booleans in their values written as numbers. -/
def countedEntries : List (Key × Value) → List (Key × Value)
  | [] => []
  | (k, v) :: es => (k, counted v) :: countedEntries es

end

/-- A value with the booleans inside its list or object written as numbers. -/
def countedInside : Value → Value
  | list items => list (countedItems items)
  | obj es => obj (countedEntries es)
  | v => v

/-- **A value whose objects have texts as keys,** none of them twice. What is neither a list nor an
object is a value that might be a key. -/
inductive HasTextKeys : Value → Prop
  | scalar (k : Key) : HasTextKeys (ofKey k)
  | list {items : List Value} : (∀ v ∈ items, HasTextKeys v) → HasTextKeys (list items)
  | obj {es : Entries Value} : (∀ k ∈ es.keys, ∃ s, k = .str s) → es.keys.Nodup →
      (∀ e ∈ es, HasTextKeys e.2) → HasTextKeys (obj es)

theorem hasTextKeys_obj {es : Entries Value} : (obj es).HasTextKeys ↔
    (∀ k ∈ es.keys, ∃ s, k = .str s) ∧ es.keys.Nodup ∧ ∀ e ∈ es, e.2.HasTextKeys := by
  refine ⟨fun h => ?_, fun ⟨hkeys, hnodup, hvalues⟩ => .obj hkeys hnodup hvalues⟩
  generalize hv : obj es = v at h
  cases h with
  | scalar k => cases k <;> cases hv
  | list _ => cases hv
  | obj hkeys hnodup hvalues =>
    cases hv
    exact ⟨hkeys, hnodup, hvalues⟩

/-- The keys of JSON values are texts. -/
theorem IsJson.hasTextKeys {v : Value} (h : v.IsJson) : v.HasTextKeys := by
  induction h with
  | null => exact .scalar .null
  | bool b => exact .scalar (.bool b)
  | int n => exact .scalar (.int n)
  | @float d _ => exact .scalar (.float d)
  | str s => exact .scalar (.str s)
  | list _ ih => exact .list ih
  | obj hkeys hnodup _ ih => exact .obj hkeys hnodup ih

/-! ### Lists and objects, place by place -/

section Places

variable {α β γ δ ι : Type} {R S M : α → β → Prop}

/-- What two places have is related in one way if it is in another, and both relations come to the
same for what is there. -/
theorem rel_congr {x : Option α} {y : Option β}
    (h : ∀ a b, x = some a → y = some b → (R a b ↔ S a b)) :
    Option.Rel R x y ↔ Option.Rel S x y := by
  constructor
  · rintro (hab | _)
    · exact .some ((h _ _ rfl rfl).mp hab)
    · exact .none
  · rintro (hab | _)
    · exact .some ((h _ _ rfl rfl).mpr hab)
    · exact .none

theorem rel_map {T : γ → δ → Prop} {f : α → γ} {g : β → δ} {x : Option α} {y : Option β} :
    Option.Rel T (x.map f) (y.map g) ↔ Option.Rel (fun a b => T (f a) (g b)) x y := by
  constructor
  · intro h
    cases x with
    | none =>
      cases y with
      | none => exact .none
      | some b => cases h
    | some a =>
      cases y with
      | none => cases h
      | some b =>
        cases h with
        | some hab => exact .some hab
  · rintro (hab | _)
    · exact .some hab
    · exact .none

/-- A relation that is another one less some exceptions holds in all places if the other one does
and there is an exception in none. -/
theorem forall_rel_iff_and_not {x : ι → Option α} {y : ι → Option β}
    (h : ∀ i a b, x i = some a → y i = some b → (R a b ↔ S a b ∧ ¬ M a b)) :
    (∀ i, Option.Rel R (x i) (y i)) ↔ (∀ i, Option.Rel S (x i) (y i)) ∧
      ¬ ∃ i a b, x i = some a ∧ y i = some b ∧ M a b := by
  have hrel : ∀ i, Option.Rel R (x i) (y i) ↔ Option.Rel S (x i) (y i) ∧
      ¬ ∃ a b, x i = some a ∧ y i = some b ∧ M a b := by
    intro i
    have hi := h i
    generalize x i = u at hi
    generalize y i = v at hi
    constructor
    · rintro (hab | _)
      · obtain ⟨hS, hM⟩ := (hi _ _ rfl rfl).mp hab
        refine ⟨.some hS, ?_⟩
        rintro ⟨a, b, ⟨⟩, ⟨⟩, hM'⟩
        exact hM hM'
      · refine ⟨.none, ?_⟩
        rintro ⟨a, b, ⟨⟩, -⟩
    · rintro ⟨hab | _, hM⟩
      · exact .some ((hi _ _ rfl rfl).mpr ⟨hab, fun h => hM ⟨_, _, rfl, rfl, h⟩⟩)
      · exact .none
  constructor
  · intro hR
    refine ⟨fun i => ((hrel i).mp (hR i)).1, ?_⟩
    rintro ⟨i, hi⟩
    exact ((hrel i).mp (hR i)).2 hi
  · rintro ⟨hS, hM⟩ i
    exact (hrel i).mpr ⟨hS i, fun hi => hM ⟨i, hi⟩⟩

/-- Two lists are related element by element if what they have in each place is. -/
theorem forall₂_iff_rel_getElem? {as : List α} {bs : List β} :
    List.Forall₂ R as bs ↔ ∀ i : ℕ, Option.Rel R as[i]? bs[i]? := by
  constructor
  · intro h
    induction h with
    | nil => exact fun i => .none
    | cons hab _ ih =>
      rintro (_ | i)
      · exact .some hab
      · exact ih i
  · intro h
    induction as generalizing bs with
    | nil =>
      cases bs with
      | nil => exact .nil
      | cons b bs => cases h 0
    | cons a as ih =>
      cases bs with
      | nil => cases h 0
      | cons b bs =>
        have hab : R a b := by
          cases h 0 with
          | some hab => exact hab
        exact .cons hab (ih fun i => h (i + 1))

end Places

theorem getElem?_countedItems (items : List Value) (i : ℕ) :
    (countedItems items)[i]? = items[i]?.map counted := by
  induction items generalizing i with
  | nil => rfl
  | cons v vs ih =>
    rw [countedItems]
    cases i with
    | zero => rfl
    | succ i => exact ih i

theorem get?_countedEntries (es : Entries Value) (k : Key) :
    Entries.get? k (countedEntries es) = (Entries.get? k es).map counted := by
  induction es with
  | nil => rfl
  | cons e es ih =>
    obtain ⟨l, v⟩ := e
    rw [countedEntries, Entries.get?, Entries.get?, ih]
    split <;> rfl

section Collections

variable {items items' : List Value} {es es' : Entries Value}

theorem same_list :
    (list items).Same (list items') ↔ ∀ i : ℕ, Option.Rel Same items[i]? items'[i]? := by
  rw [← forall₂_iff_rel_getElem?]
  constructor
  · intro h
    cases h with
    | number hv => cases hv
    | list h => exact h
  · exact .list

theorem same_obj : (obj es).Same (obj es') ↔
    ∀ s : String, Option.Rel Same (Entries.get? (.str s) es) (Entries.get? (.str s) es') := by
  constructor
  · intro h
    cases h with
    | number hv => cases hv
    | obj h => exact h
  · exact .obj

theorem same_counted_list : (list items).counted.Same (list items').counted ↔
    ∀ i : ℕ, Option.Rel (fun v w : Value => v.counted.Same w.counted) items[i]? items'[i]? := by
  rw [counted, counted, same_list]
  simp only [getElem?_countedItems, rel_map]

theorem same_counted_obj : (obj es).counted.Same (obj es').counted ↔ ∀ s : String,
    Option.Rel (fun v w : Value => v.counted.Same w.counted) (Entries.get? (.str s) es)
      (Entries.get? (.str s) es') := by
  rw [counted, counted, same_obj]
  simp only [get?_countedEntries, rel_map]

theorem mixed_list : (list items).Mixed (list items') ↔
    ∃ (i : ℕ) (v w : Value), items[i]? = some v ∧ items'[i]? = some w ∧ v.Mixed w := by
  constructor
  · intro h
    cases h with
    | list hv hw h => exact ⟨_, _, _, hv, hw, h⟩
  · rintro ⟨i, v, w, hv, hw, h⟩
    exact .list hv hw h

theorem mixed_obj : (obj es).Mixed (obj es') ↔ ∃ (s : String) (v w : Value),
    Entries.get? (.str s) es = some v ∧ Entries.get? (.str s) es' = some w ∧ v.Mixed w := by
  constructor
  · intro h
    cases h with
    | obj hv hw h => exact ⟨_, _, _, hv, hw, h⟩
  · rintro ⟨s, v, w, hv, hw, h⟩
    exact .obj hv hw h

end Collections

/-! ### The forms of values -/

/-- The forms that values have. -/
inductive Form
  /-- Neither a list nor an object. -/
  | scalar
  | list
  | obj
deriving DecidableEq

/-- The form of a value. -/
def form : Value → Form
  | list _ => .list
  | obj _ => .obj
  | _ => .scalar

@[simp] theorem form_list (items : List Value) : (list items).form = .list := rfl

@[simp] theorem form_obj (es : Entries Value) : (obj es).form = .obj := rfl

@[simp] theorem form_ofKey (k : Key) : (ofKey k).form = .scalar := by
  cases k <;> rfl

theorem form_counted (v : Value) : v.counted.form = v.form := by
  cases v <;> rfl

theorem form_of_amount? {v : Value} {r : WithBot (WithTop ℤ)} (h : v.amount? = some r) :
    v.form = .scalar := by
  cases v with
  | list items => cases h
  | obj es => cases h
  | _ => rfl

/-- Only values of one form are the same. -/
theorem Same.form_eq {v w : Value} (h : v.Same w) : v.form = w.form := by
  cases h with
  | number hv hw => rw [form_of_amount? hv, form_of_amount? hw]
  | _ => rfl

theorem form_eq_of_same_counted {v w : Value} (h : v.counted.Same w.counted) :
    v.form = w.form := by
  rw [← form_counted v, ← form_counted w]
  exact h.form_eq

theorem form_eq_of_looseEq {v w : Value} (h : v.looseEq w = true) : v.form = w.form := by
  cases v <;> cases w <;> first | rfl | simp [looseEq] at h

/-! ### Values that might be keys -/

/-- What is neither list nor object compares loosely as the keys do. -/
theorem looseEq_ofKey (k l : Key) : (ofKey k).looseEq (ofKey l) = k.same l := by
  cases k <;> cases l <;> simp only [ofKey, looseEq] <;> rfl

/-- The exact value of what counts as a number is that of the number. -/
theorem amount?_counted_ofKey (k : Key) : (ofKey k).counted.amount? =
    k.order?.bind fun o => if o.isNumber then some o.rank else none := by
  cases k with
  | float d => cases d <;> rfl
  | _ => rfl

/-- What counts as a number names its exact value as a key. -/
theorem name?_eq_number {k : Key} {r : WithBot (WithTop ℤ)} :
    k.name? = some (.number r) ↔ (ofKey k).counted.amount? = some r := by
  rw [amount?_counted_ofKey]
  cases ho : k.order? with
  | none =>
    cases k with
    | null => simp [Key.name?]
    | str s => simp [Key.name?]
    | _ => cases ho
  | some o =>
    rw [Key.name?_of_order? ho, Option.bind_some]
    split <;> simp

/-- What a key names that counts as a number is a number. -/
theorem eq_number_of_order? {k : Key} {o : OrderKey} {n : Key.Name} (ho : k.order? = some o)
    (hn : k.name? = some n) : n = .number o.rank := by
  rw [Key.name?_of_order? ho] at hn
  split at hn
  · exact (Option.some.inj hn).symm
  · cases hn

theorem eq_of_name?_eq_null {k : Key} (h : k.name? = some .null) : k = .null := by
  cases k with
  | null => rfl
  | str s => cases h
  | _ => cases eq_number_of_order? rfl h

theorem eq_of_name?_eq_text {k : Key} {s : String} (h : k.name? = some (.text s)) :
    k = .str s := by
  cases k with
  | null => cases h
  | str t =>
    cases h
    rfl
  | _ => cases eq_number_of_order? rfl h

/-- Once booleans are written as numbers, values that might be keys are the same when they are the
same key. -/
theorem same_counted_ofKey {k l : Key} :
    (ofKey k).counted.Same (ofKey l).counted ↔ k.same l = true := by
  rw [Key.same_iff]
  constructor
  · intro h
    generalize hv : (ofKey k).counted = v at h
    generalize hw : (ofKey l).counted = w at h
    cases h with
    | null =>
      cases k <;> cases hv
      cases l <;> cases hw
      exact ⟨.null, rfl, rfl⟩
    | str s =>
      cases k <;> cases hv
      cases l <;> cases hw
      exact ⟨.text s, rfl, rfl⟩
    | number hr hr' =>
      exact ⟨.number _, name?_eq_number.mpr (hv ▸ hr), name?_eq_number.mpr (hw ▸ hr')⟩
    | _ => cases k <;> cases hv
  · rintro ⟨n, hk, hl⟩
    cases n with
    | number r => exact .number (name?_eq_number.mp hk) (name?_eq_number.mp hl)
    | null =>
      rw [eq_of_name?_eq_null hk, eq_of_name?_eq_null hl]
      exact .null
    | text s =>
      rw [eq_of_name?_eq_text hk, eq_of_name?_eq_text hl]
      exact .str s

/-! ### Comparing loosely -/

section Loose

variable {items items' : List Value} {es es' : Entries Value}

theorem looseEqList_iff : looseEqList items items' = true ↔
    List.Forall₂ (fun v w : Value => v.looseEq w = true) items items' := by
  induction items generalizing items' with
  | nil => cases items' <;> simp [looseEqList]
  | cons v vs ih =>
    cases items' with
    | nil => simp [looseEqList]
    | cons w ws => rw [looseEqList_cons, List.forall₂_cons, ih]

/-- Every entry of the first object is in the second. -/
theorem looseEqEntries_iff : looseEqEntries es es' = true ↔
    ∀ e ∈ es, ∃ w, Entries.get? e.1 es' = some w ∧ e.2.looseEq w = true := by
  refine ⟨fun h => ?_, looseEqEntries_of_get?⟩
  induction es with
  | nil => exact nofun
  | cons e es ih =>
    obtain ⟨k, v⟩ := e
    rw [looseEqEntries, Bool.and_eq_true_iff] at h
    refine List.forall_mem_cons.mpr ⟨?_, ih h.2⟩
    cases hw : Entries.get? k es' with
    | none => simp [hw] at h
    | some w =>
      rw [hw] at h
      exact ⟨w, rfl, h.1⟩

/-- As many keys, all of them among the others, are the same keys. -/
theorem perm_keys_of_subset (hnodup : es.keys.Nodup) (hsubset : es.keys ⊆ es'.keys)
    (hlength : es.length = es'.length) : es.keys.Perm es'.keys := by
  refine (hnodup.subperm hsubset).perm_of_length_le ?_
  rw [Entries.keys, Entries.keys, List.length_map, List.length_map, hlength]

variable (htexts : ∀ k ∈ es.keys, ∃ s, k = .str s) (hnodup : es.keys.Nodup)
  (htexts' : ∀ k ∈ es'.keys, ∃ s, k = .str s) (hnodup' : es'.keys.Nodup)
include htexts hnodup htexts' hnodup'

/-- Objects that have related values in every place have the same keys. -/
theorem perm_keys_of_rel {R : Value → Value → Prop}
    (h : ∀ s : String, Option.Rel R (Entries.get? (.str s) es) (Entries.get? (.str s) es')) :
    es.keys.Perm es'.keys := by
  have hsome : ∀ s : String, .str s ∈ es.keys ↔ .str s ∈ es'.keys := by
    intro s
    rw [← not_iff_not, ← Entries.get?_eq_none, ← Entries.get?_eq_none]
    have hs := h s
    generalize Entries.get? (.str s) es = x at hs
    generalize Entries.get? (.str s) es' = y at hs
    cases hs <;> simp
  refine (List.perm_ext_iff_of_nodup hnodup hnodup').mpr fun k => ?_
  constructor
  · intro hk
    obtain ⟨s, rfl⟩ := htexts k hk
    exact (hsome s).mp hk
  · intro hk
    obtain ⟨s, rfl⟩ := htexts' k hk
    exact (hsome s).mpr hk

/-- **Objects compare loosely key by key.** Their sizes are compared as well, because looking up the
keys of the first object in the second does not tell whether the second has more. -/
theorem looseEq_obj : (obj es).looseEq (obj es') = true ↔ ∀ s : String,
    Option.Rel (fun v w : Value => v.looseEq w = true) (Entries.get? (.str s) es)
      (Entries.get? (.str s) es') := by
  rw [looseEq, Bool.and_eq_true_iff, decide_eq_true_iff, looseEqEntries_iff]
  constructor
  · rintro ⟨hlength, hfound⟩ s
    have hsubset : es.keys ⊆ es'.keys := by
      intro k hk
      obtain ⟨e, he, rfl⟩ := List.mem_map.mp hk
      obtain ⟨t, ht⟩ := htexts e.1 hk
      obtain ⟨w, hw, -⟩ := hfound e he
      rw [ht] at hw ⊢
      exact Entries.mem_keys_of_mem (Entries.mem_of_get? hw)
    cases hv : Entries.get? (.str s) es with
    | some v =>
      obtain ⟨w, hw, hvw⟩ := hfound _ (Entries.mem_of_get? hv)
      rw [hw]
      exact .some hvw
    | none =>
      have hnone : Entries.get? (.str s) es' = none := by
        rw [Entries.get?_eq_none, ← (perm_keys_of_subset hnodup hsubset hlength).mem_iff]
        exact Entries.get?_eq_none.mp hv
      rw [hnone]
      exact .none
  · intro h
    constructor
    · have hperm := perm_keys_of_rel htexts hnodup htexts' hnodup' h
      simpa [Entries.keys] using hperm.length_eq
    · rintro ⟨k, v⟩ he
      obtain ⟨s, rfl⟩ := htexts k (Entries.mem_keys_of_mem he)
      have hs := h s
      rw [Entries.get?_of_mem hnodup he] at hs
      generalize Entries.get? (.str s) es' = y at hs ⊢
      cases hs with
      | some hvw => exact ⟨_, rfl, hvw⟩

end Loose

/-- Values of different forms are neither equal nor the same. -/
theorem looseEq_iff_of_form_ne {a b : Value} (h : a.form ≠ b.form) :
    a.looseEq b = true ↔ a.counted.Same b.counted :=
  iff_of_false (fun hab => h (form_eq_of_looseEq hab)) fun hab => h (form_eq_of_same_counted hab)

/-- **Comparing loosely is sameness of what the booleans count as.** -/
theorem looseEq_iff {a b : Value} (ha : a.HasTextKeys) (hb : b.HasTextKeys) :
    a.looseEq b = true ↔ a.counted.Same b.counted := by
  induction ha generalizing b with
  | scalar k =>
    cases hb with
    | scalar l => rw [looseEq_ofKey, same_counted_ofKey]
    | _ => exact looseEq_iff_of_form_ne (by simp)
  | @list items hitems ih =>
    cases hb with
    | scalar l => exact looseEq_iff_of_form_ne (by simp)
    | list hitems' =>
      rw [looseEq, looseEqList_iff, forall₂_iff_rel_getElem?, same_counted_list]
      refine forall_congr' fun i => rel_congr fun v w hv hw => ?_
      exact ih v (List.mem_of_getElem? hv) (hitems' w (List.mem_of_getElem? hw))
    | obj _ _ _ => exact looseEq_iff_of_form_ne (by simp)
  | @obj es htexts hnodup hvalues ih =>
    cases hb with
    | scalar l => exact looseEq_iff_of_form_ne (by simp)
    | list _ => exact looseEq_iff_of_form_ne (by simp)
    | obj htexts' hnodup' hvalues' =>
      rw [looseEq_obj htexts hnodup htexts' hnodup', same_counted_obj]
      refine forall_congr' fun s => rel_congr fun v w hv hw => ?_
      exact ih _ (Entries.mem_of_get? hv) (hvalues' _ (Entries.mem_of_get? hw))

/-! ### Comparing strictly -/

/-- **Comparing strictly is sameness of what the booleans inside count as.** -/
theorem strictEq_iff {a b : Value} (ha : a.HasTextKeys) (hb : b.HasTextKeys) :
    a.strictEq b = true ↔ a.countedInside.Same b.countedInside := by
  have hloose := looseEq_iff ha hb
  cases a with
  | bool x =>
    cases b with
    | bool y =>
      rw [strictEq, decide_eq_true_iff]
      constructor
      · rintro rfl
        exact .bool x
      · intro h
        cases h with
        | bool => rfl
        | number hr => cases hr
    | _ =>
      refine iff_of_false Bool.false_ne_true fun h => ?_
      cases h with
      | number hr => cases hr
  | _ =>
    cases b with
    | bool y =>
      refine iff_of_false Bool.false_ne_true fun h => ?_
      cases h with
      | number _ hr => cases hr
    -- Where no boolean is compared, strict comparing is loose comparing.
    | _ => exact hloose

/-! ### Booleans against numbers -/

theorem Same.amount?_eq {v w : Value} (h : v.Same w) : v.amount? = w.amount? := by
  cases h with
  | number hv hw => rw [hv, hw]
  | _ => rfl

/-- In values that are the same, no boolean stands against a number. -/
theorem Same.not_mixed {v w : Value} (h : v.Same w) : ¬ v.Mixed w := by
  intro hmixed
  induction hmixed with
  | left hr => cases h.amount?_eq.trans hr
  | right hr => cases h.amount?_eq.symm.trans hr
  | @list items items' v w i hv hw _ ih =>
    have hplace := same_list.mp h i
    rw [hv, hw] at hplace
    cases hplace with
    | some hvw => exact ih hvw
  | @obj es es' v w s hv hw _ ih =>
    have hplace := same_obj.mp h s
    rw [hv, hw] at hplace
    cases hplace with
    | some hvw => exact ih hvw

theorem eq_bool_of_same {b : Bool} {v : Value} (h : (bool b).Same v) : v = bool b := by
  cases h with
  | bool => rfl
  | number hr => cases hr

theorem eq_bool_of_same_bool {b : Bool} {v : Value} (h : v.Same (bool b)) : v = bool b := by
  cases h with
  | bool => rfl
  | number _ hr => cases hr

theorem counted_ofKey {k : Key} (h : ∀ b, ofKey k ≠ bool b) : (ofKey k).counted = ofKey k := by
  cases k with
  | bool b => exact absurd rfl (h b)
  | _ => rfl

theorem amount?_counted {v : Value} (h : ∀ b, v ≠ bool b) : v.counted.amount? = v.amount? := by
  cases v with
  | bool b => exact absurd rfl (h b)
  | _ => rfl

/-- What is the same as what a boolean counts as, and is no boolean, is a number. -/
theorem mixed_of_same_counted_bool {b : Bool} {v : Value} (hv : ∀ c, v ≠ bool c)
    (h : (bool b).counted.Same v.counted) : (bool b).Mixed v := by
  have hr : v.amount? = some (OrderKey.int (ofBoolInt b)).rank := by
    rw [← amount?_counted hv, ← h.amount?_eq]
    rfl
  exact .left hr

theorem mixed_bool_of_same_counted {b : Bool} {v : Value} (hv : ∀ c, v ≠ bool c)
    (h : v.counted.Same (bool b).counted) : v.Mixed (bool b) := by
  have hr : v.amount? = some (OrderKey.int (ofBoolInt b)).rank := by
    rw [← amount?_counted hv, h.amount?_eq]
    rfl
  exact .right hr

theorem same_iff_counted_ofKey (k l : Key) : (ofKey k).Same (ofKey l) ↔
    (ofKey k).counted.Same (ofKey l).counted ∧ ¬ (ofKey k).Mixed (ofKey l) := by
  by_cases hk : ∃ b, ofKey k = bool b
  · obtain ⟨b, hb⟩ := hk
    rw [hb]
    by_cases hl : ∃ c, ofKey l = bool c
    · obtain ⟨c, hc⟩ := hl
      rw [hc]
      constructor
      · intro h
        rw [eq_bool_of_same h]
        exact ⟨.number rfl rfl, (Same.bool b).not_mixed⟩
      · rintro ⟨h, -⟩
        have hsame : (Key.bool b).same (.bool c) = true := same_counted_ofKey.mp h
        rw [of_decide_eq_true hsame]
        exact .bool c
    · have hne : ∀ c, ofKey l ≠ bool c := not_exists.mp hl
      refine iff_of_false (fun h => hne b (eq_bool_of_same h)) ?_
      rintro ⟨h, hmixed⟩
      exact hmixed (mixed_of_same_counted_bool hne h)
  · have hne : ∀ b, ofKey k ≠ bool b := not_exists.mp hk
    by_cases hl : ∃ c, ofKey l = bool c
    · obtain ⟨c, hc⟩ := hl
      rw [hc]
      refine iff_of_false (fun h => hne c (eq_bool_of_same_bool h)) ?_
      rintro ⟨h, hmixed⟩
      exact hmixed (mixed_bool_of_same_counted hne h)
    -- Where there is no boolean, writing booleans as numbers changes nothing.
    · have hne' : ∀ c, ofKey l ≠ bool c := not_exists.mp hl
      rw [counted_ofKey hne, counted_ofKey hne']
      exact ⟨fun h => ⟨h, h.not_mixed⟩, And.left⟩

/-- Values of different forms are not the same, however booleans are written. -/
theorem same_iff_counted_of_form_ne {a b : Value} (h : a.form ≠ b.form) :
    a.Same b ↔ a.counted.Same b.counted ∧ ¬ a.Mixed b :=
  iff_of_false (fun hab => h hab.form_eq) fun hab => h (form_eq_of_same_counted hab.1)

/-- **Values are the same if they are once the booleans are written as numbers**, and a boolean
stands nowhere against a number. -/
theorem same_iff_counted {a b : Value} (ha : a.HasTextKeys) (hb : b.HasTextKeys) :
    a.Same b ↔ a.counted.Same b.counted ∧ ¬ a.Mixed b := by
  induction ha generalizing b with
  | scalar k =>
    cases hb with
    | scalar l => exact same_iff_counted_ofKey k l
    | _ => exact same_iff_counted_of_form_ne (by simp)
  | @list items hitems ih =>
    cases hb with
    | scalar l => exact same_iff_counted_of_form_ne (by simp)
    | list hitems' =>
      rw [same_list, same_counted_list, mixed_list]
      refine forall_rel_iff_and_not fun i v w hv hw => ?_
      exact ih v (List.mem_of_getElem? hv) (hitems' w (List.mem_of_getElem? hw))
    | obj _ _ _ => exact same_iff_counted_of_form_ne (by simp)
  | @obj es htexts hnodup hvalues ih =>
    cases hb with
    | scalar l => exact same_iff_counted_of_form_ne (by simp)
    | list _ => exact same_iff_counted_of_form_ne (by simp)
    | obj htexts' hnodup' hvalues' =>
      rw [same_obj, same_counted_obj, mixed_obj]
      refine forall_rel_iff_and_not fun s v w hv hw => ?_
      exact ih _ (Entries.mem_of_get? hv) (hvalues' _ (Entries.mem_of_get? hw))

/-- **Values are the same exactly if they compare strictly equal and no boolean of one stands where
the other has a number.** -/
theorem same_iff {a b : Value} (ha : a.HasTextKeys) (hb : b.HasTextKeys) :
    a.Same b ↔ a.strictEq b = true ∧ ¬ a.Mixed b := by
  rw [same_iff_counted ha hb, ← looseEq_iff ha hb]
  refine and_congr_left fun hmixed => ?_
  have hloose := looseEq_iff ha hb
  cases a with
  | bool x =>
    cases b with
    | bool y => rfl
    | _ =>
      refine iff_of_false (fun h => hmixed ?_) Bool.false_ne_true
      exact mixed_of_same_counted_bool nofun (hloose.mp h)
  | _ =>
    cases b with
    | bool y =>
      refine iff_of_false (fun h => hmixed ?_) Bool.false_ne_true
      exact mixed_bool_of_same_counted nofun (hloose.mp h)
    | _ => rfl

end Value

end WizardLogic
