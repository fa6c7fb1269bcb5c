import WizardLogic.Siblings

/-!
# Parts are smaller than the whole

Evaluation walks down a document: from an object to a field, from a list to its items, from a list
of siblings to the same siblings in order. Each step reaches a smaller value, which is why the walk
ends; the lemmas here say so.
-/

namespace WizardLogic

/-- A step from a value to one of its parts. -/
inductive PathStep
  | field (name : String)
  | item (position : Nat)

/-- A way from a value to a part of it, at any depth. -/
abbrev PartPath := List PathStep

instance : Coe String PartPath := ⟨fun name => [.field name]⟩

/-- **Entries are smaller than their object.** -/
theorem Entries.sizeOf_lt_of_get? {k : Key} {es : Entries Value} {v : Value}
    (h : es.get? k = some v) : sizeOf v < sizeOf es := by
  induction es with
  | nil => simp [Entries.get?] at h
  | cons e es ih =>
    obtain ⟨k', w⟩ := e
    simp only [Entries.get?] at h
    split at h
    · obtain rfl := Option.some.inj h
      simp only [List.cons.sizeOf_spec, Prod.mk.sizeOf_spec]
      omega
    · have := ih h
      simp only [List.cons.sizeOf_spec]
      omega

namespace Value

/-- **Fields are smaller than their object,** absent ones included. -/
theorem sizeOf_field_lt (es : Entries Value) (k : String) :
    sizeOf ((obj es).field k) < sizeOf (obj es) := by
  simp only [field, get?, obj.sizeOf_spec]
  cases h : Entries.get? (.str k) es with
  | none =>
    simp only [Option.getD_none, null.sizeOf_spec]
    cases es <;> simp only [List.nil.sizeOf_spec, List.cons.sizeOf_spec] <;> omega
  | some v =>
    have := Entries.sizeOf_lt_of_get? h
    simp only [Option.getD_some]
    omega

/-- No value is smaller than null. -/
theorem sizeOf_null_le (v : Value) : sizeOf null ≤ sizeOf v := by
  cases v <;> simp

/-- Fields are no larger than what they are looked for in. -/
theorem sizeOf_field_le (v : Value) (k : String) : sizeOf (v.field k) ≤ sizeOf v := by
  cases v with
  | obj es => exact Nat.le_of_lt (sizeOf_field_lt es k)
  | _ => exact sizeOf_null_le _

/-! ### Parts at any depth -/

/-- The part that a step leads to; null where there is none. -/
def child (v : Value) : PathStep → Value
  | .field name => v.field name
  | .item i =>
    match v with
    | list items => items.getD i null
    | _ => null

/-- The part that a path leads to; null where there is none. -/
def part (v : Value) (p : PartPath) : Value := p.foldl child v

theorem sizeOf_child_le (v : Value) (step : PathStep) : sizeOf (v.child step) ≤ sizeOf v := by
  cases step with
  | field name => exact sizeOf_field_le v name
  | item i =>
    cases v with
    | list items =>
      simp only [child, List.getD_eq_getElem?_getD]
      cases h : items[i]? with
      | none => exact sizeOf_null_le _
      | some w =>
        have := List.sizeOf_lt_of_mem (List.mem_of_getElem? h)
        simp only [Option.getD_some, list.sizeOf_spec]
        omega
    | _ => exact sizeOf_null_le _

/-- **Parts are no larger than the whole.** -/
theorem sizeOf_part_le (v : Value) (p : PartPath) : sizeOf (v.part p) ≤ sizeOf v := by
  induction p generalizing v with
  | nil => exact Nat.le_refl _
  | cons step p ih => exact Nat.le_trans (ih (v.child step)) (sizeOf_child_le v step)

/-- **Proper parts are smaller than their object.** -/
theorem sizeOf_part_lt (es : Entries Value) (step : PathStep) (p : PartPath) :
    sizeOf ((obj es).part (step :: p)) < sizeOf (obj es) := by
  refine Nat.lt_of_le_of_lt (sizeOf_part_le ((obj es).child step) p) ?_
  cases step with
  | field name => exact sizeOf_field_lt es name
  | item i =>
    change sizeOf null < sizeOf (obj es)
    have : 0 < sizeOf es := by
      cases es <;> simp only [List.nil.sizeOf_spec, List.cons.sizeOf_spec] <;> omega
    simp only [null.sizeOf_spec, obj.sizeOf_spec]
    omega

end Value

/-- Rearranging a list keeps its size. -/
theorem sizeOf_eq_of_perm {xs ys : List Value} (h : xs.Perm ys) : sizeOf xs = sizeOf ys := by
  induction h with
  | nil => rfl
  | cons x _ ih => simp only [List.cons.sizeOf_spec, ih]
  | swap x y l => simp only [List.cons.sizeOf_spec]; omega
  | trans _ _ ih₁ ih₂ => exact ih₁.trans ih₂

/-- **Siblings are no larger than the value that lists them.** -/
theorem sizeOf_siblings_le {v : Value} {items : List Value} (h : siblingsOf v = .ok items) :
    sizeOf items ≤ sizeOf v := by
  unfold siblingsOf at h
  split at h
  · cases h
    cases v <;> simp
  · split at h
    · cases h
    · next xs hx =>
      split at h
      · next hall =>
        cases h
        have hp : sizeOf (sortSiblings xs) = sizeOf xs :=
          sizeOf_eq_of_perm (List.mergeSort_perm xs _)
        rw [hp]
        cases v with
        | list items =>
          simp only [Value.elements?, Option.some.injEq] at hx
          subst hx
          simp only [Value.list.sizeOf_spec]
          omega
        | obj es =>
          simp only [Value.elements?, Option.some.injEq] at hx
          subst hx
          cases es with
          | nil => simp
          | cons e es =>
            obtain ⟨k, w⟩ := e
            cases k <;> simp [Value.ofKey, Value.isObject] at hall
        | str s =>
          simp only [Value.elements?, Option.some.injEq] at hx
          subst hx
          cases hs : s.toList with
          | nil => simp
          | cons c cs => simp [hs, Value.isObject] at hall
        | _ => simp [Value.elements?] at hx
      · cases h

end WizardLogic
