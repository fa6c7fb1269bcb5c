import Mathlib
import WizardLogic.Proofs.Document.Json
import WizardLogic.Proofs.Value.Entries

/-!
# Objects whose keys are texts

The objects of documents and requests are entries under distinct texts (`Entries.KeyedByTexts`). They
stay so when entries under texts are written into them, and they may be taken for sets of entries:
what they have is what is found in them (`Entries.KeyedByTexts.mem_iff`). The law of writing one
object into another says which entries there are afterwards (`Entries.KeyedByTexts.mem_merge_iff`):
those that are written, and those of the other keys.
-/

namespace WizardLogic

namespace Entries

variable {α β : Type} {es new : Entries α} {s : String} {v : α}

/-- Writing under a text adds the text to the keys, unless it is one of them. -/
theorem keys_insert (s : String) (v : α) (es : Entries α) :
    (es.insert (.str s) v).keys = if .str s ∈ es.keys then es.keys else es.keys ++ [.str s] := by
  by_cases hmem : Key.str s ∈ es.keys
  · rw [if_pos hmem]
    induction es with
    | nil => cases hmem
    | cons e es ih =>
      obtain ⟨k, w⟩ := e
      rw [insert]
      split
      · rfl
      · next hk =>
        have hrest : Key.str s ∈ keys es :=
          (List.mem_cons.mp hmem).resolve_left fun h => hk (Key.str_same.mpr h.symm)
        exact congrArg (k :: ·) (ih hrest)
  · rw [if_neg hmem, insert_of_not_mem hmem, keys, List.map_append]
    rfl

/-- After an entry is written, every value is the one written or was there before. -/
theorem mem_insert {k : Key} {e : Key × α} (h : e ∈ es.insert k v) : e ∈ es ∨ e.2 = v := by
  induction es with
  | nil => exact .inr (congrArg Prod.snd (List.mem_singleton.mp h))
  | cons e' es ih =>
    obtain ⟨l, w⟩ := e'
    rw [insert] at h
    split at h
    · rcases List.mem_cons.mp h with rfl | hmem
      · exact .inr rfl
      · exact .inl (List.mem_cons_of_mem _ hmem)
    · rcases List.mem_cons.mp h with rfl | hmem
      · exact .inl List.mem_cons_self
      · exact (ih hmem).imp_left (List.mem_cons_of_mem _)

/-- After entries are written, every value is one of those written or was there before. -/
theorem mem_merge {e : Key × α} (h : e ∈ es.merge new) : e ∈ es ∨ e.2 ∈ new.values := by
  induction new generalizing es with
  | nil => exact .inl h
  | cons f new ih =>
    obtain ⟨k, v⟩ := f
    rcases ih h with hmem | hmem
    · refine (mem_insert hmem).imp_right fun hvalue => ?_
      rw [hvalue]
      exact List.mem_cons_self
    · exact .inr (List.mem_cons_of_mem _ hmem)

/-- Where no key occurs twice, an entry has the only value under its key. -/
theorem mem_iff_of_nodup (hnodup : es.keys.Nodup) {k : Key} (h : (k, v) ∈ es) (w : α) :
    (k, w) ∈ es ↔ w = v := by
  constructor
  · intro hw
    exact congrArg Prod.snd (List.inj_on_of_nodup_map hnodup hw h rfl)
  · rintro rfl
    exact h

/-- **The entries of an object**: their keys are texts, and no text stands twice. -/
structure KeyedByTexts (es : Entries α) : Prop where
  texts : ∀ k ∈ es.keys, ∃ s, k = .str s
  nodup : es.keys.Nodup

namespace KeyedByTexts

theorem nil : KeyedByTexts ([] : Entries α) := ⟨List.forall_mem_nil _, List.nodup_nil⟩

theorem insert (h : es.KeyedByTexts) (s : String) (v : α) :
    (es.insert (.str s) v).KeyedByTexts := by
  constructor
  all_goals rw [keys_insert]; split
  · exact h.texts
  · exact List.forall_mem_append.mpr ⟨h.texts, by simp⟩
  · exact h.nodup
  · next hmem =>
    exact List.nodup_append.mpr ⟨h.nodup, by simp,
      fun k hk l hl heq => hmem (List.mem_singleton.mp hl ▸ heq ▸ hk)⟩

/-- **Objects stay objects** when entries under texts are written into them. -/
theorem merge (h : es.KeyedByTexts) (hnew : ∀ k ∈ new.keys, ∃ s, k = .str s) :
    (es.merge new).KeyedByTexts := by
  induction new generalizing es with
  | nil => exact h
  | cons e new ih =>
    obtain ⟨k, v⟩ := e
    obtain ⟨⟨s, rfl⟩, hrest⟩ := List.forall_mem_cons.mp hnew
    exact ih (h.insert s v) hrest

/-- Objects with the same keys, or with some of them in the same order, are both objects. -/
theorem of_sublist {es : Entries α} {es' : Entries β} (h : es.KeyedByTexts)
    (hsub : es'.keys.Sublist es.keys) : es'.KeyedByTexts :=
  ⟨fun k hk => h.texts k (hsub.subset hk), h.nodup.sublist hsub⟩

/-- No key stands twice. -/
theorem distinct (h : es.KeyedByTexts) : es.Distinct := by
  have hpairwise : es.Pairwise fun e f => e.1 ≠ f.1 := List.pairwise_map.mp h.nodup
  refine hpairwise.imp_of_mem fun {e f} he hf hne => ?_
  obtain ⟨s, hs⟩ := h.texts e.1 (mem_keys_of_mem he)
  rw [hs] at hne ⊢
  exact Bool.eq_false_iff.mpr fun hsame => hne (Key.str_same.mp hsame).symm

/-- **What an object has is what is found in it.** -/
theorem mem_iff (h : es.KeyedByTexts) : (.str s, v) ∈ es ↔ es.get? (.str s) = some v :=
  ⟨get?_of_mem h.nodup, mem_of_get?⟩

/-- **What an object has after another one is written into it**: the entries of that one, and those
of its own whose keys are not written. -/
theorem mem_merge_iff (h : es.KeyedByTexts) (hnew : new.KeyedByTexts) {e : Key × α} :
    e ∈ es.merge new ↔ e ∈ new ∨ e ∈ es ∧ e.1 ∉ new.keys := by
  obtain ⟨k, v⟩ := e
  by_cases hk : ∃ s, k = .str s
  · obtain ⟨s, rfl⟩ := hk
    rw [(h.merge hnew.texts).mem_iff, get?_merge hnew.distinct, h.mem_iff, hnew.mem_iff,
      ← get?_eq_none]
    cases new.get? (.str s) <;> simp
  -- Nothing stands under what is no text.
  · have hnone : ∀ {es : Entries α}, es.KeyedByTexts → (k, v) ∉ es :=
      fun hes hmem => hk (hes.texts k (mem_keys_of_mem hmem))
    simp [hnone h, hnone hnew, hnone (h.merge hnew.texts)]

end KeyedByTexts

end Entries

end WizardLogic
