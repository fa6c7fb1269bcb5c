import WizardLogic.Engine.Event

/-!
# How runs end

A run started in a world ends with a result or a failure, and in a world (`Run.runFrom`); an effect
does the same with the exchange alone (`Effect.runFrom`). This file says how the ways of putting
runs together act on these pairs, so that nothing after it opens the monads that runs are made of.

* A sequence goes on only where its first part ends well (`Run.runFrom_bind_ok`,
  `Run.runFrom_bind_error`), and if it ends well then both parts do (`Run.runFrom_bind_eq_ok`).
* Looking at the state leaves it as it is (`Run.look_state`).
* What is done inside an iteration is done with the iteration on the stack, and the stack is popped
  however that ends (`Run.runFrom_within`).
-/

namespace WizardLogic

variable {α β : Type}

/-- How an effect ends, and the exchange it leaves. -/
def Effect.runFrom (e : Effect α) (x : Exchange) : Except Failure α × Exchange := e.run.run x

/-- How a run ends, and the world it leaves. -/
def Run.runFrom (r : Run α) (w : World) : Except Failure α × World := r.run.run w

/-- Changing what an effect comes to changes nothing of what it does. -/
theorem Effect.runFrom_map (f : α → β) (e : Effect α) (x : Exchange) :
    (f <$> e).runFrom x = ((e.runFrom x).1.map f, (e.runFrom x).2) := by
  unfold runFrom
  rw [ExceptT.run_map, StateT.run_map]
  rfl

/-! ### Worlds and loops -/

namespace World

/-- The world inside one more iteration of a loop. -/
def enter (w : World) (f : Frame) : World :=
  { w with state := { w.state with toSlices := w.state.enter f } }

/-- The world after the innermost iteration. -/
def leave (w : World) : World :=
  { w with state := { w.state with toSlices := w.state.leave } }

@[simp] theorem frames_enter (w : World) (f : Frame) :
    (w.enter f).state.frames = f :: w.state.frames := rfl

@[simp] theorem frames_leave (w : World) : w.leave.state.frames = w.state.frames.tail := rfl

@[simp] theorem localContexts_enter (w : World) (f : Frame) :
    (w.enter f).state.localContexts = w.state.localContexts := rfl

@[simp] theorem localContexts_leave (w : World) :
    w.leave.state.localContexts = w.state.localContexts := rfl

/-- Leaving the iteration that was entered last gives back the slices from before. -/
theorem toSlices_leave_of_eq_enter {w w' : World} {f : Frame}
    (h : w'.state.toSlices = (w.enter f).state.toSlices) :
    w'.leave.state.toSlices = w.state.toSlices := by
  change w'.state.toSlices.leave = w.state.toSlices
  rw [h]
  rfl

end World

/-! ### Sequences -/

namespace Run

@[simp] theorem runFrom_pure (a : α) (w : World) : (pure a : Run α).runFrom w = (.ok a, w) := rfl

@[simp] theorem runFrom_throw (f : Failure) (w : World) :
    (throw f : Run α).runFrom w = (.error f, w) := rfl

theorem runFrom_bind (r : Run α) (f : α → Run β) (w : World) :
    (r >>= f).runFrom w = match r.runFrom w with
      | (.ok a, w') => (f a).runFrom w'
      | (.error e, w') => (.error e, w') := by
  -- Here the two monads of a run are opened, and nowhere else.
  change (ExceptT.bindCont f (r.run.run w).1).run (r.run.run w).2 = _
  unfold runFrom
  rcases r.run.run w with ⟨_ | _, _⟩ <;> rfl

/-- After a part that ends well, a sequence goes on. -/
theorem runFrom_bind_ok {r : Run α} {w w' : World} {a : α} (h : r.runFrom w = (.ok a, w'))
    (f : α → Run β) : (r >>= f).runFrom w = (f a).runFrom w' := by
  rw [runFrom_bind, h]

/-- After a part that fails, a sequence fails in the same way. -/
theorem runFrom_bind_error {r : Run α} {w w' : World} {e : Failure}
    (h : r.runFrom w = (.error e, w')) (f : α → Run β) :
    (r >>= f).runFrom w = (.error e, w') := by
  rw [runFrom_bind, h]

/-- A sequence ends well exactly when both its parts do. -/
theorem runFrom_bind_eq_ok {r : Run α} {f : α → Run β} {w w'' : World} {b : β} :
    (r >>= f).runFrom w = (.ok b, w'') ↔
      ∃ a w', r.runFrom w = (.ok a, w') ∧ (f a).runFrom w' = (.ok b, w'') := by
  rw [runFrom_bind]
  rcases r.runFrom w with ⟨e | a, w'⟩
  · simp
  · refine ⟨fun h => ⟨a, w', rfl, h⟩, ?_⟩
    rintro ⟨_, _, ⟨⟩, h⟩
    exact h

/-! ### Looking, changing, and iterations -/

theorem runFrom_look (f : State → Effect α) (w : World) :
    (look f).runFrom w =
      (((f w.state).runFrom w.exchange).1,
        { w with exchange := ((f w.state).runFrom w.exchange).2 }) := rfl

/-- Looking at the state leaves it as it is. -/
@[simp] theorem look_state (f : State → Effect α) (w : World) :
    ((look f).runFrom w).2.state = w.state := rfl

@[simp] theorem runFrom_change (f : State → State) (w : World) :
    (change f).runFrom w = (.ok (), { w with state := f w.state }) := rfl

/-- An iteration is on the stack while its body runs and off the stack afterwards. -/
theorem runFrom_within (f : Frame) (body : Run α) (w : World) :
    (within f body).runFrom w =
      ((body.runFrom (w.enter f)).1, (body.runFrom (w.enter f)).2.leave) := rfl

end Run

end WizardLogic
