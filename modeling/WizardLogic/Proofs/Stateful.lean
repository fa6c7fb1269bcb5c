import Mathlib.Data.List.Forall2

/-!
# Computations that may fail

Rendering a template, reading a text and reading tokens are computations of one kind: they have a
state and may fail. They are followed step by step: a step that succeeds leaves the rest of the
computation to be followed from the state that it leads to, and one that fails ends it. Of an
outcome without a state the steps are known from the end: if it succeeds, so did they
(`exists_of_bind_eq_ok`), and if it fails, so did one of them (`error_or_of_bind_eq_error`). The
same holds of the computations that are made for the items of a list (`forall₂_of_mapM_eq_ok` and
`exists_of_mapM_eq_error`).
-/

namespace WizardLogic

variable {ε α β : Type}

/-- Both steps of what succeeds succeed. -/
theorem exists_of_bind_eq_ok {e : Except ε α} {k : α → Except ε β} {b : β}
    (h : e >>= k = .ok b) : ∃ a, e = .ok a ∧ k a = .ok b := by
  cases e with
  | error f => cases h
  | ok a => exact ⟨a, rfl, h⟩

/-- One of the steps of what fails fails. -/
theorem error_or_of_bind_eq_error {e : Except ε α} {k : α → Except ε β} {f : ε}
    (h : e >>= k = .error f) : e = .error f ∨ ∃ a, e = .ok a ∧ k a = .error f := by
  cases e with
  | error f' =>
    obtain rfl := Except.error.inj h
    exact .inl rfl
  | ok a => exact .inr ⟨a, rfl, h⟩

theorem mapError_eq_ok_iff {ε' : Type} {g : ε → ε'} {e : Except ε α} {a : α} :
    e.mapError g = .ok a ↔ e = .ok a := by
  cases e <;> simp [Except.mapError]

theorem mapError_eq_error_iff {ε' : Type} {g : ε → ε'} {e : Except ε α} {f' : ε'} :
    e.mapError g = .error f' ↔ ∃ f, e = .error f ∧ f' = g f := by
  cases e <;> simp [Except.mapError, eq_comm]

section Items

variable {k : α → Except ε β} {items : List α}

theorem forall₂_of_mapM_eq_ok {results : List β} (h : items.mapM k = .ok results) :
    List.Forall₂ (fun a b => k a = .ok b) items results := by
  induction items generalizing results with
  | nil =>
    obtain rfl := Except.ok.inj h
    exact .nil
  | cons a items ih =>
    rw [List.mapM_cons] at h
    obtain ⟨b, hfirst, h⟩ := exists_of_bind_eq_ok h
    obtain ⟨rest, hrest, h⟩ := exists_of_bind_eq_ok h
    obtain rfl := Except.ok.inj h
    exact .cons hfirst (ih hrest)

theorem exists_of_mapM_eq_error {f : ε} (h : items.mapM k = .error f) :
    ∃ a ∈ items, k a = .error f := by
  induction items with
  | nil => cases h
  | cons a items ih =>
    rw [List.mapM_cons] at h
    obtain hfirst | ⟨b, -, h⟩ := error_or_of_bind_eq_error h
    · exact ⟨a, List.mem_cons_self, hfirst⟩
    · obtain hrest | ⟨rest, -, h⟩ := error_or_of_bind_eq_error h
      · obtain ⟨other, hmem, hother⟩ := ih hrest
        exact ⟨other, List.mem_cons_of_mem _ hmem, hother⟩
      · cases h

end Items

namespace Stateful

variable {σ : Type} {s s' : σ} {a : α} {r : StateT σ (Except ε) α}

theorem bind_of_ok {f : α → StateT σ (Except ε) β} (h : r s = .ok (a, s')) :
    (r >>= f) s = f a s' := by
  simp [bind, StateT.bind, h, Except.bind]

theorem bind_of_error {f : α → StateT σ (Except ε) β} {e : ε} (h : r s = .error e) :
    (r >>= f) s = .error e := by
  simp [bind, StateT.bind, h, Except.bind]

theorem pure_run (a : α) (s : σ) : (pure a : StateT σ (Except ε) α) s = .ok (a, s) := rfl

end Stateful

end WizardLogic
