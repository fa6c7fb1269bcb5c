import Mathlib
import WizardLogic.Proofs.Document.Json
import WizardLogic.Proofs.Siblings.Rank

/-!
# Entries that are written and looked up

Keys of different kinds may name the same entry: a boolean names what one or zero names, and numbers
go by their exact value. What a key names is said once, by `Key.name?`; two keys are the same key
exactly when they name the same (`Key.same_iff`). A key that is not a number names nothing, not even
its own entry, so sameness is no equivalence, but keys that are the same can stand for each other
(`Key.same_congr`).

From this follow the laws that relate writing and looking up, for one entry (`Entries.get?_insert`)
and for a whole object (`Entries.get?_merge`), and that two objects which correspond at one key still
do when corresponding entries are written into them (`Entries.rel_get?_merge`). An object that is
written entry by entry has its keys as they are written first (`Entries.keys_ofList`) and its values
as they are written last (`Entries.get?_ofList`).
-/

namespace WizardLogic

/-! ### Orders that are equal -/

namespace OrderKey

/-- Two orders are equal when both are numbers, of one rank. -/
theorem compare?_eq_some_eq {a b : OrderKey} :
    a.compare? b = some .eq ↔ a.isNumber = true ∧ b.isNumber = true ∧ a.rank = b.rank := by
  by_cases ha : a.isNumber = true
  · by_cases hb : b.isNumber = true
    · rw [compare?_eq ha hb, Option.some.injEq, compare_eq_iff_eq]
      simp [ha, hb]
    -- With what is not a number nothing compares.
    · have hnone : a.compare? b = none := by
        cases b with
        | int n => exact absurd rfl hb
        | float d =>
          cases d with
          | nan => rcases a with n | d <;> [rfl; cases d <;> rfl]
          | _ => exact absurd rfl hb
      simp [hnone, hb]
  · have hnone : a.compare? b = none := by
      cases a with
      | int n => exact absurd rfl ha
      | float d =>
        cases d with
        | nan => cases b <;> rfl
        | _ => exact absurd rfl ha
    simp [hnone, ha]

end OrderKey

/-! ### What a key names -/

/-- What the key of an entry names. -/
inductive Key.Name
  | null
  | text (s : String)
  | number (rank : WithBot (WithTop ℤ))

namespace Key

/-- The number that a key is, if it is of a kind that counts as numbers. -/
def order? : Key → Option OrderKey
  | bool b => some (.int (ofBool b))
  | int n => some (.int n)
  | float d => some (.float d)
  | _ => none

/-- **What a key names**: nothing if it is not a number. -/
def name? : Key → Option Name
  | null => some .null
  | str s => some (.text s)
  | k => k.order?.bind fun o => if o.isNumber then some (.number o.rank) else none

theorem name?_of_order? {k : Key} {o : OrderKey} (h : k.order? = some o) :
    k.name? = if o.isNumber then some (.number o.rank) else none := by
  cases k with
  | null | str _ => cases h
  | _ => simp only [name?, h, Option.bind_some]

/-- Keys that count as numbers are the same when the numbers are. -/
theorem same_of_order? {k l : Key} {a b : OrderKey} (hk : k.order? = some a)
    (hl : l.order? = some b) : k.same l = decide (a.compare? b = some .eq) := by
  cases k with
  | null | str _ => cases hk
  | bool x =>
    cases hk
    cases l with
    | null | str _ => cases hl
    | bool y => cases hl; cases x <;> cases y <;> decide
    | int n => cases hl; simp [same, OrderKey.compare?]
    | float d =>
      cases hl
      rw [same, floatIsInt, OrderKey.compare?]
      rcases d.compareInt? (ofBool x) with - | - | - | - <;> rfl
  | int m =>
    cases hk
    cases l with
    | null | str _ => cases hl
    | bool y => cases hl; simp [same, OrderKey.compare?]
    | int n => cases hl; simp [same, OrderKey.compare?]
    | float d =>
      cases hl
      rw [same, floatIsInt, OrderKey.compare?]
      rcases d.compareInt? m with - | - | - | - <;> rfl
  | float c =>
    cases hk
    cases l with
    | null | str _ => cases hl
    | _ => cases hl; rfl

/-- **Two keys are the same key when they name the same.** -/
theorem same_iff {k l : Key} : k.same l = true ↔ ∃ n, k.name? = some n ∧ l.name? = some n := by
  cases hk : k.order? with
  | some a =>
    cases hl : l.order? with
    | some b =>
      rw [same_of_order? hk hl, name?_of_order? hk, name?_of_order? hl, decide_eq_true_eq,
        OrderKey.compare?_eq_some_eq]
      by_cases ha : a.isNumber = true <;> by_cases hb : b.isNumber = true <;>
        simp [ha, hb, eq_comm]
    | none =>
      rw [name?_of_order? hk]
      cases k with
      | null | str _ => cases hk
      | _ =>
        cases l with
        | null | str _ => simp [same, name?]
        | _ => cases hl
  | none =>
    cases k with
    | null => cases l <;> simp [same, name?, order?]
    | str s =>
      cases l with
      | str t => simp [same, name?, eq_comm]
      | _ => simp [same, name?, order?]
    | _ => cases hk

/-- Of two keys that are the same, either may stand for the other. -/
theorem same_congr {l m : Key} (h : l.same m = true) (k : Key) : k.same l = k.same m := by
  obtain ⟨n, hl, hm⟩ := same_iff.mp h
  rw [Bool.eq_iff_iff, same_iff, same_iff, hl, hm]

theorem same_comm (k l : Key) : k.same l = l.same k := by
  rw [Bool.eq_iff_iff, same_iff, same_iff]
  exact exists_congr fun n => and_comm

end Key

/-! ### Writing and looking up -/

namespace Entries

variable {α β : Type}

/-- **What is found after writing an entry**: the value written, under the keys that are the same
as its key, and else what was there before. -/
theorem get?_insert (k l : Key) (v : α) (es : Entries α) :
    get? k (insert l v es) = if k.same l then some v else get? k es := by
  induction es with
  | nil => rfl
  | cons e es ih =>
    obtain ⟨m, w⟩ := e
    rw [insert, get?]
    by_cases hl : l.same m = true
    · rw [if_pos hl, get?, Key.same_congr hl k]
      split <;> rfl
    · rw [if_neg hl, get?, ih]
      by_cases hm : k.same m = true
      -- The entry that is found cannot be the one that is written.
      · have hne : ¬ k.same l = true := by
          intro hkl
          rw [Key.same_comm, Key.same_congr hkl] at hm
          exact hl (Key.same_comm m l ▸ hm)
        rw [if_pos hm, if_neg hne, if_pos hm]
      · rw [if_neg hm, if_neg hm]

/-! ### Writing several entries -/

theorem merge_nil (es : Entries α) : es.merge [] = es := rfl

theorem merge_cons (es : Entries α) (k : Key) (v : α) (new : Entries α) :
    es.merge ((k, v) :: new) = (insert k v es).merge new := rfl

theorem merge_append (es new new' : Entries α) :
    es.merge (new ++ new') = (es.merge new).merge new' := List.foldl_append

/-- Entries under other names hide nothing. -/
theorem get?_merge_of_get?_eq_none {k : Key} {es new : Entries α} (h : new.get? k = none) :
    (es.merge new).get? k = es.get? k := by
  induction new generalizing es with
  | nil => rfl
  | cons e new ih =>
    obtain ⟨l, v⟩ := e
    rw [get?] at h
    by_cases hl : k.same l = true
    · rw [if_pos hl] at h
      cases h
    · rw [if_neg hl] at h
      rw [merge_cons, ih h, get?_insert, if_neg hl]

/-- **No key stands twice** among the entries, as in every object. -/
def Distinct (es : Entries α) : Prop := es.Pairwise fun e f => e.1.same f.1 = false

/-- Nothing is found under a key that no entry has. -/
theorem get?_eq_none_of_forall {k : Key} {es : Entries α} (h : ∀ e ∈ es, k.same e.1 = false) :
    get? k es = none := by
  induction es with
  | nil => rfl
  | cons e es ih =>
    obtain ⟨l, v⟩ := e
    obtain ⟨hl, hrest⟩ := List.forall_mem_cons.mp h
    rw [get?, hl, if_neg Bool.false_ne_true, ih hrest]

/-- **What is found after writing an object**: what it has under the key, and else what was there
before. -/
theorem get?_merge {new : Entries α} (hnew : new.Distinct) (es : Entries α) (k : Key) :
    (es.merge new).get? k = (new.get? k).or (es.get? k) := by
  induction new generalizing es with
  | nil => rfl
  | cons e new ih =>
    obtain ⟨l, v⟩ := e
    obtain ⟨hl, hrest⟩ := List.pairwise_cons.mp hnew
    by_cases hk : k.same l = true
    -- No later entry has the key again.
    · have hother : ∀ f ∈ new, k.same f.1 = false := by
        intro f hf
        rw [Key.same_comm, Key.same_congr hk, Key.same_comm]
        exact hl f hf
      rw [merge_cons, get?_merge_of_get?_eq_none (get?_eq_none_of_forall hother), get?_insert,
        get?, if_pos hk, if_pos hk, Option.some_or]
    · rw [merge_cons, ih hrest, get?_insert, get?, if_neg hk, if_neg hk]

/-! ### Entries written in order -/

/-- Writing under a key adds it to the keys, unless one of them names the same. -/
theorem keys_insert_any (k : Key) (v : α) (es : Entries α) :
    (es.insert k v).keys = if es.keys.any k.same then es.keys else es.keys ++ [k] := by
  induction es with
  | nil => rfl
  | cons e es ih =>
    obtain ⟨l, w⟩ := e
    have hkeys : keys ((l, w) :: es) = l :: keys es := rfl
    rw [insert, hkeys, List.any_cons]
    by_cases hl : k.same l = true
    · rw [if_pos hl, hl, Bool.true_or, if_pos rfl]
      rfl
    · have hrest : keys ((l, w) :: insert k v es) = l :: keys (insert k v es) := rfl
      rw [if_neg hl, hrest, ih, Bool.eq_false_iff.mpr hl, Bool.false_or]
      split <;> rfl

theorem distinct_iff (es : Entries α) :
    es.Distinct ↔ es.keys.Pairwise fun k l => k.same l = false := by
  rw [Distinct, keys, List.pairwise_map]

/-- No key stands twice after an entry is written. -/
theorem Distinct.insert {es : Entries α} (h : es.Distinct) (k : Key) (v : α) :
    (es.insert k v).Distinct := by
  rw [distinct_iff] at h ⊢
  rw [keys_insert_any]
  split
  · exact h
  · next hany =>
    refine List.pairwise_append.mpr ⟨h, List.pairwise_singleton _ _, fun l hl m hm => ?_⟩
    rw [List.mem_singleton.mp hm, Key.same_comm]
    exact Bool.eq_false_iff.mpr fun hsame => hany (List.any_eq_true.mpr ⟨l, hl, hsame⟩)

/-- Entries that correspond one by one: under the same keys, with related values. -/
def Corresponds (A : α → β → Prop) : Entries α → Entries β → Prop :=
  List.Forall₂ fun e f => e.1 = f.1 ∧ A e.2 f.2

variable {A : α → β → Prop} {es new : Entries α} {es' new' : Entries β}

/-- Writing related values under a key keeps entries corresponding. -/
theorem Corresponds.insert (h : Corresponds A es es') (k : Key) {v : α} {w : β} (hv : A v w) :
    Corresponds A (es.insert k v) (es'.insert k w) := by
  induction h with
  | nil => exact .cons ⟨rfl, hv⟩ .nil
  | @cons e f es es' hef hrest ih =>
    obtain ⟨l, v'⟩ := e
    obtain ⟨l', w'⟩ := f
    obtain ⟨rfl, hvalue⟩ := hef
    rw [Entries.insert, Entries.insert]
    split
    · exact .cons ⟨rfl, hv⟩ hrest
    · exact .cons ⟨rfl, hvalue⟩ ih

theorem Corresponds.merge (h : Corresponds A es es') (hnew : Corresponds A new new') :
    Corresponds A (es.merge new) (es'.merge new') := by
  induction hnew generalizing es es' with
  | nil => exact h
  | @cons e f new new' hef _ ih =>
    obtain ⟨l, v⟩ := e
    obtain ⟨l', w⟩ := f
    obtain ⟨rfl, hvalue⟩ := hef
    exact ih (h.insert l hvalue)

/-- Entries that correspond have related values under every key. -/
theorem Corresponds.rel_get? (h : Corresponds A es es') (k : Key) :
    Option.Rel A (es.get? k) (es'.get? k) := by
  induction h with
  | nil => exact .none
  | @cons e f es es' hef _ ih =>
    obtain ⟨l, v⟩ := e
    obtain ⟨l', w⟩ := f
    obtain ⟨rfl, hvalue⟩ := hef
    rw [get?, get?]
    split
    · exact .some hvalue
    · exact ih

/-- **Writing corresponding entries keeps objects related at a key** at which they were before. -/
theorem rel_get?_merge {k : Key} (h : Option.Rel A (es.get? k) (es'.get? k))
    (hnew : Corresponds A new new') :
    Option.Rel A ((es.merge new).get? k) ((es'.merge new').get? k) := by
  induction hnew generalizing es es' with
  | nil => exact h
  | @cons e f new new' hef _ ih =>
    obtain ⟨l, v⟩ := e
    obtain ⟨l', w⟩ := f
    obtain ⟨rfl, hvalue⟩ := hef
    refine ih ?_
    rw [get?_insert, get?_insert]
    split
    · exact .some hvalue
    · exact h

end Entries

end WizardLogic
