import WizardLogic.Query

/-!
# Queries that cannot fail

A query fails where it calls a function, where it orders a text against a number, and where it takes
a slice by step zero. An expression in which none of this is written yields a value of whatever it
is applied to (`Expr.Unfailing.succeeds`), by induction along the expression: a path that
leads nowhere yields null.
-/

namespace WizardLogic

/-! ### Evaluations that succeed -/

/-- An evaluation succeeds if there is a value that it comes to. -/
def Succeeds {ε α : Type} (r : Except ε α) : Prop := ∃ a, r = .ok a

namespace Succeeds

variable {ε α β : Type}

theorem ok (a : α) : Succeeds (.ok a : Except ε α) := ⟨a, rfl⟩

theorem bind {r : Except ε α} {f : α → Except ε β} (hr : Succeeds r)
    (hf : ∀ a, Succeeds (f a)) : Succeeds (r >>= f) := by
  obtain ⟨a, rfl⟩ := hr
  exact hf a

theorem mapM {f : α → Except ε β} (hf : ∀ a, Succeeds (f a)) (xs : List α) :
    Succeeds (xs.mapM f) := by
  induction xs with
  | nil => exact .ok []
  | cons x xs ih =>
    rw [List.mapM_cons]
    exact (hf x).bind fun _ => ih.bind fun _ => .ok _

end Succeeds

namespace Query

/-! ### Expressions -/

/-- **An expression that cannot fail**: no function is called in it, nothing is given to a function,
no values are ordered, and no slice goes by step zero. -/
inductive Expr.Unfailing : Expr → Prop
  | current : Unfailing .current
  | field (name : String) : Unfailing (.field name)
  | literal (v : Value) : Unfailing (.literal v)
  | index (n : Int) : Unfailing (.index n)
  | slice {start stop step : Option Int} : step ≠ some 0 → Unfailing (.slice start stop step)
  | andThen {first second : Expr} : Unfailing first → Unfailing second →
      Unfailing (.andThen first second)
  | indexed {first second : Expr} : Unfailing first → Unfailing second →
      Unfailing (.indexed first second)
  | projection {left right : Expr} : Unfailing left → Unfailing right →
      Unfailing (.projection left right)
  | valueProjection {left right : Expr} : Unfailing left → Unfailing right →
      Unfailing (.valueProjection left right)
  | filterProjection {left right condition : Expr} : Unfailing left → Unfailing right →
      Unfailing condition → Unfailing (.filterProjection left right condition)
  | flatten {e : Expr} : Unfailing e → Unfailing (.flatten e)
  | eq {left right : Expr} : Unfailing left → Unfailing right →
      Unfailing (.comparison .eq left right)
  | ne {left right : Expr} : Unfailing left → Unfailing right →
      Unfailing (.comparison .ne left right)
  | or {left right : Expr} : Unfailing left → Unfailing right → Unfailing (.or left right)
  | and {left right : Expr} : Unfailing left → Unfailing right → Unfailing (.and left right)
  | not {e : Expr} : Unfailing e → Unfailing (.not e)
  | multiList {items : List Expr} : (∀ e ∈ items, Unfailing e) → Unfailing (.multiList items)
  | multiObject {entries : List (String × Expr)} : (∀ p ∈ entries, Unfailing p.2) →
      Unfailing (.multiObject entries)

variable {bindings : Entries Value} {v : Value}

theorem succeeds_evalItems {items : List Expr} (h : ∀ e ∈ items, Succeeds (eval bindings e v)) :
    Succeeds (evalItems bindings items v) := by
  induction items with
  | nil =>
    rw [evalItems]
    exact .ok []
  | cons e rest ih =>
    obtain ⟨he, hrest⟩ := List.forall_mem_cons.mp h
    rw [evalItems]
    exact he.bind fun _ => (ih hrest).bind fun _ => .ok _

theorem succeeds_evalEntries {entries : List (String × Expr)}
    (h : ∀ p ∈ entries, Succeeds (eval bindings p.2 v)) :
    Succeeds (evalEntries bindings entries v) := by
  induction entries with
  | nil =>
    rw [evalEntries]
    exact .ok []
  | cons p rest ih =>
    obtain ⟨hp, hrest⟩ := List.forall_mem_cons.mp h
    rw [evalEntries]
    exact hp.bind fun _ => (ih hrest).bind fun _ => .ok _

/-- **An expression that cannot fail yields a value of everything.** -/
theorem Expr.Unfailing.succeeds {e : Expr} (h : e.Unfailing) (v : Value) :
    Succeeds (eval bindings e v) := by
  induction h generalizing v with
  | current | field name | literal w =>
    rw [eval]
    exact .ok _
  | index n =>
    rw [eval.eq_def]
    dsimp only
    split
    · exact .ok _
    · exact .ok _
  | @slice start stop step hstep =>
    have hone : step.getD 1 ≠ 0 := by
      cases step with
      | none => decide
      | some n => exact fun h => hstep (congrArg some h)
    rw [eval.eq_def]
    dsimp only
    split
    · rw [if_neg hone]
      exact .ok _
    · exact .ok _
  | andThen _ _ ihfirst ihsecond | indexed _ _ ihfirst ihsecond =>
    rw [eval]
    exact (ihfirst v).bind ihsecond
  | projection _ _ ihleft ihright | valueProjection _ _ ihleft ihright =>
    rw [eval]
    refine (ihleft v).bind fun w => ?_
    split
    · exact (Succeeds.mapM ihright _).bind fun _ => .ok _
    · exact .ok _
  | filterProjection _ _ _ ihleft ihright ihcondition =>
    rw [eval]
    refine (ihleft v).bind fun w => ?_
    split
    · refine (Succeeds.mapM (fun x => ?_) _).bind fun _ => .ok _
      refine (ihcondition x).bind fun c => ?_
      split
      · exact .ok _
      · exact ihright x
    · exact .ok _
  | flatten _ ih =>
    rw [eval]
    refine (ih v).bind fun w => ?_
    split
    · exact .ok _
    · exact .ok _
  | eq _ _ ihleft ihright | ne _ _ ihleft ihright =>
    rw [eval]
    exact (ihleft v).bind fun _ => (ihright v).bind fun _ => .ok _
  | or _ _ ihleft ihright =>
    rw [eval]
    refine (ihleft v).bind fun a => ?_
    split
    · exact ihright v
    · exact .ok _
  | and _ _ ihleft ihright =>
    rw [eval]
    refine (ihleft v).bind fun a => ?_
    split
    · exact .ok _
    · exact ihright v
  | not _ ih =>
    rw [eval]
    exact (ih v).bind fun _ => .ok _
  | multiList _ ih =>
    rw [eval]
    split
    · exact .ok _
    · exact (succeeds_evalItems fun e he => ih e he v).bind fun _ => .ok _
  | multiObject _ ih =>
    rw [eval]
    split
    · exact .ok _
    · exact (succeeds_evalEntries fun p hp => ih p hp v).bind fun _ => .ok _

/-- A query that denotes such an expression has a value on all data. -/
theorem succeeds_evaluate {query : Value} {e : Expr} (hquery : expression query = .ok e)
    (h : e.Unfailing) (data : Value) : Succeeds (evaluate query data bindings) := by
  obtain ⟨v, hv⟩ : Succeeds (eval bindings e data) := h.succeeds data
  refine ⟨v, ?_⟩
  simp only [evaluate, hquery, hv]

end Query

end WizardLogic
