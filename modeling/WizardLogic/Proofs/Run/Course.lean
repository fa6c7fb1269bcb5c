import WizardLogic.Proofs.Run.Moment

/-!
# The course of a run

A *course* is a list of moments together with what it leads from and to. `Course` builds courses
from the least there is: nothing happens, a fault is met, one thing is done, one course comes after
another, or a course takes place inside an iteration of a loop. It does not mention documents. The
main result, `Engine.course_moments`, is that a run of blocks has the course of its moments; with it
every statement about runs is an induction over five cases, whatever the blocks are.

Two such statements say that the moments are all there is to a run. Between its moments a run only
enters and leaves loops: apart from the stack of loops, each moment begins in the world that the
moment before it leaves (`Course.follows`). And the results of a run that ends well are those of its
moments, in their order (`Course.results_eq`).
-/

namespace WizardLogic

/-- How the moments of a run lead from a world to an end: a result or a failure, and a world. -/
inductive Course (en : Engine) :
    World → List Moment → Except Failure (List ActionResult) × World → Prop
  /-- Nothing happens. -/
  | nothing (w : World) : Course en w [] (.ok [], w)
  /-- The document is not such that the run can go on. -/
  | fault (w : World) (f : Failure) : Course en w [] (.error f, w)
  /-- One thing is done. -/
  | deed (w : World) (δ : Deed) : Course en w [⟨δ, [], w⟩] ((en.perform δ).runFrom w)
  /-- What comes after a course that ends well, with the results of both. -/
  | seq {w w' w'' : World} {ms ms' : List Moment} {rs : List ActionResult}
      {r : Except Failure (List ActionResult)} :
      Course en w ms (.ok rs, w') → Course en w' ms' (r, w'') →
      Course en w (ms ++ ms') (r.map (rs ++ ·), w'')
  /-- An iteration of a loop. -/
  | within {w w' : World} {ms : List Moment} {r : Except Failure (List ActionResult)}
      (it : Iteration) :
      it.array[it.index]? = some it.item → Course en (w.enter it.frame) ms (r, w') →
      Course en w (ms.map (·.inside it)) (r, w'.leave)

namespace Course

variable {en : Engine} {w : World} {ms ms' : List Moment}

/-! ### Courses of sequences -/

/-- The end of a course, with another list of moments that is equal to it. -/
theorem congr {o o' : Except Failure (List ActionResult) × World} (h : Course en w ms o)
    (hms : ms = ms') (ho : o = o') : Course en w ms' o' := hms ▸ ho ▸ h

/-- The course of a sequence whose first part has no results of its own. -/
theorem bind {α : Type} {r : Run α} {f : α → Run (List ActionResult)}
    {next : α → World → List Moment}
    (h : Course en w ms ((r.runFrom w).1.map fun _ => [], (r.runFrom w).2))
    (hnext : ∀ a w', r.runFrom w = (.ok a, w') → Course en w' (next a w') ((f a).runFrom w')) :
    Course en w (ms ++ r.followed w next) ((r >>= f).runFrom w) := by
  rcases hr : r.runFrom w with ⟨e | a, w'⟩
  · rw [hr] at h
    rw [Run.followed_error hr, Run.runFrom_bind_error hr, List.append_nil]
    exact h
  · rw [hr] at h
    have hs := hnext a w' hr
    rw [Run.followed_ok hr, Run.runFrom_bind_ok hr]
    generalize (f a).runFrom w' = o at hs ⊢
    rcases o with ⟨e | rs, w''⟩ <;> exact h.seq hs

/-- The course of two runs one after the other, with the results of both. -/
theorem append {r s : Run (List ActionResult)} {next : World → List Moment}
    (h : Course en w ms (r.runFrom w))
    (hnext : ∀ w', Course en w' (next w') (s.runFrom w')) :
    Course en w (ms ++ r.followed w fun _ w' => next w') (Run.runFrom (do
      let results ← r
      let more ← s
      return results ++ more) w) := by
  rcases hr : r.runFrom w with ⟨e | rs, w'⟩
  · rw [hr] at h
    rw [Run.followed_error hr, Run.runFrom_bind_error hr, List.append_nil]
    exact h
  · rw [hr] at h
    have hs := hnext w'
    rw [Run.followed_ok hr, Run.runFrom_bind_ok hr, Run.runFrom_bind]
    generalize s.runFrom w' = o at hs ⊢
    rcases o with ⟨e | rs', w''⟩ <;> exact h.seq hs

end Course

namespace Engine

variable {en : Engine}

/-! ### Actions -/

theorem course_momentsOfEach (items : List Value) (w : World) :
    Course en w (en.momentsOfEach items w)
      (.ok ((en.runEach items).run w).1, ((en.runEach items).run w).2) := by
  induction items generalizing w with
  | nil =>
    rw [run_runEach_nil]
    exact .nothing w
  | cons d rest ih =>
    rw [run_runEach_cons]
    exact (Course.deed w (.action d)).seq (ih ((en.runAction d).run w).2)

theorem course_momentsOfActions (v : Value) (w : World) :
    Course en w (en.momentsOfActions v w) ((en.runActions v).runFrom w) := by
  unfold momentsOfActions
  cases hv : siblingsOf v with
  | error f =>
    rw [runActions_of_error hv]
    exact .fault w f
  | ok items =>
    rw [runActions_of_ok hv]
    exact course_momentsOfEach items w

/-- The course of a block's own actions and of what comes after them. -/
theorem course_momentsOfBody {b : Value} {s : Run (List ActionResult)}
    {next : World → List Moment} (hnext : ∀ w, Course en w (next w) (s.runFrom w)) (w : World) :
    Course en w (en.momentsOfBody b next w) (Run.runFrom (do
      let results ← en.runActions (b.field "actions")
      let more ← s
      return results ++ more) w) :=
  (course_momentsOfActions (b.field "actions") w).append hnext

/-! ### Conditions and sources -/

theorem course_momentOfCondition (b : Value) (w : World) :
    Course en w (momentOfCondition b w)
      (((en.passes b).runFrom w).1.map fun _ => [], ((en.passes b).runFrom w).2) := by
  unfold momentOfCondition passes
  split
  · exact .nothing w
  · refine (Course.deed w (.condition (b.field "conditions"))).congr rfl ?_
    rw [perform, Run.runFrom_bind, Run.runFrom_look]
    cases ((en.evaluate w.state (b.field "conditions")).runFrom w.exchange).1 <;> rfl

theorem course_momentOfSource (b : Value) (w : World) :
    Course en w (momentOfSource b w)
      (((en.loopItems b).runFrom w).1.map fun _ => [], ((en.loopItems b).runFrom w).2) := by
  unfold momentOfSource loopItems
  split
  · exact .fault w _
  · refine (Course.deed w (.source (b.field "context"))).congr rfl ?_
    rw [perform, Run.runFrom_bind, Run.runFrom_bind, Run.runFrom_look]
    rcases ((en.resolveValue w.state (b.field "context")).runFrom w.exchange).1 with e | v
    · rfl
    · cases v <;> rfl

/-! ### Loops -/

theorem course_momentsOfIterations {b : Value} {start : World} {array : List Value}
    {body : Run (List ActionResult)} {inner : World → List Moment}
    (hinner : ∀ w, Course en w (inner w) (body.runFrom w)) (items : List Value) (i : Nat)
    (hitems : array.drop i = items) (w : World) :
    Course en w (momentsOfIterations ⟨b, start, array⟩ body inner i items w)
      ((iterate (b.field "name") array body i items).runFrom w) := by
  induction items generalizing i w with
  | nil => exact .nothing w
  | cons item rest ih =>
    -- The items are what is left of the array, so the first of them is the one at the position.
    have hi : array[i]? = some item := by
      rw [← List.head?_drop, hitems, List.head?_cons]
    have hrest : array.drop (i + 1) = rest := by
      rw [← List.tail_drop, hitems, List.tail_cons]
    let it : Iteration := ⟨⟨b, start, array⟩, i, item⟩
    have hfirst : Course en w ((inner (w.enter it.frame)).map (·.inside it))
        ((Run.within it.frame body).runFrom w) :=
      Course.within it hi (hinner (w.enter it.frame))
    exact hfirst.append fun w' => ih (i + 1) hrest w'

/-! ### Blocks -/

/-- The courses of blocks, of the lists under their fields and of their siblings, all at once. -/
theorem courses (hen : en.registry = .builtIn) :
    (∀ b w, Course en w (en.momentsOfBlock b w) ((en.runBlock b).runFrom w)) ∧
      (∀ v w, Course en w (en.moments v w) ((en.runBlocks v).runFrom w)) ∧
      ∀ items w, Course en w (en.momentsOfList items w) ((en.runBlockList items).runFrom w) := by
  refine block_induction hen ?noObject ?plain ?conditional ?forEach ?scheduleTask ?malformed
    ?siblings ?nil ?cons
  case noObject =>
    intro b hb w
    rw [momentsOfBlock_of_not_isObject hb, runBlock_of_not_isObject hb]
    exact .fault w _
  case plain =>
    intro es h w
    rw [momentsOfBlock_plain h, runBlock_plain h]
    exact course_momentsOfActions _ w
  case conditional =>
    intro es h ih w
    rw [momentsOfBlock_conditional h, runBlock_conditional h]
    exact (course_momentOfCondition (.obj es) w).bind fun passed w' _ =>
      course_momentsOfBody (ih passed) w'
  case forEach =>
    intro es h ih w
    rw [momentsOfBlock_forEach h, runBlock_forEach h]
    exact (course_momentOfSource (.obj es) w).bind fun items w' _ =>
      course_momentsOfIterations (course_momentsOfBody ih) items 0 rfl w'
  case scheduleTask =>
    intro es h ih w
    rw [momentsOfBlock_scheduleTask h, runBlock_scheduleTask h]
    exact ih w
  case malformed =>
    intro v f h w
    rw [moments_of_error h, runBlocks_of_error h]
    exact .fault w _
  case siblings =>
    intro v items h ih w
    rw [moments_of_ok h, runBlocks_of_ok h]
    exact ih w
  case nil =>
    intro w
    rw [momentsOfList_nil, runBlockList_nil]
    exact .nothing w
  case cons =>
    intro b rest hb hrest w
    rw [momentsOfList_cons, runBlockList_cons]
    exact (hb w).append hrest

/-- **A run of blocks has the course of its moments.** -/
theorem course_moments (hen : en.registry = .builtIn) (v : Value) (w : World) :
    Course en w (en.moments v w) ((en.runBlocks v).runFrom w) := (courses hen).2.1 v w

end Engine

/-! ### From moment to moment -/

variable {en : Engine}

/-- The world with no loop running. -/
def World.unwound (w : World) : World := { w with state := { w.state with frames := [] } }

/-- Which loops are running says nothing about the local contexts. -/
theorem World.localContexts_eq_of_unwound_eq {w w' : World} (h : w.unwound = w'.unwound) :
    w.state.localContexts = w'.state.localContexts := by
  change w.unwound.state.localContexts = w'.unwound.state.localContexts
  rw [h]

namespace Moment

/-- The world that a moment leaves. -/
def after (en : Engine) (m : Moment) : World := ((en.perform m.deed).runFrom m.world).2

/-- The results that a moment has. -/
def results (en : Engine) (m : Moment) : List ActionResult :=
  match ((en.perform m.deed).runFrom m.world).1 with
  | .ok rs => rs
  | .error _ => []

end Moment

/-- Only actions have results. -/
theorem Moment.results_of_ne_action {δ : Deed} {loops : List Iteration} {w : World}
    (hδ : ∀ d, δ ≠ .action d) : (⟨δ, loops, w⟩ : Moment).results en = [] := by
  unfold results
  cases δ with
  | action d => exact absurd rfl (hδ d)
  | condition c =>
    rw [Engine.perform, Run.runFrom_bind, Run.runFrom_look]
    cases ((en.evaluate w.state c).runFrom w.exchange).1 <;> rfl
  | source d =>
    rw [Engine.perform, Run.runFrom_bind, Run.runFrom_look]
    cases ((en.resolveValue w.state d).runFrom w.exchange).1 <;> rfl

/-- Moments that follow each other from a world to a world: apart from the loops that are running,
each begins where the one before it ends. -/
inductive Follows (en : Engine) : World → List Moment → World → Prop
  | done {w w' : World} : w.unwound = w'.unwound → Follows en w [] w'
  | step {w w' : World} {m : Moment} {ms : List Moment} :
      w.unwound = m.world.unwound → Follows en (m.after en) ms w' → Follows en w (m :: ms) w'

namespace Follows

variable {w w' w'' : World} {ms ms' : List Moment}

theorem of_unwound_eq (hw : w.unwound = w'.unwound) (h : Follows en w' ms w'') :
    Follows en w ms w'' := by
  cases h with
  | done h => exact .done (hw.trans h)
  | step h hrest => exact .step (hw.trans h) hrest

theorem append (h : Follows en w ms w') (h' : Follows en w' ms' w'') :
    Follows en w (ms ++ ms') w'' := by
  induction h with
  | done hw => exact h'.of_unwound_eq hw
  | step hw _ ih => exact .step hw (ih h')

/-- Entering an iteration before the moments and leaving it after them changes nothing that follows
from moment to moment. -/
theorem within {it : Iteration} {f : Frame} (h : Follows en (w.enter f) ms w') :
    Follows en w (ms.map (·.inside it)) w'.leave := by
  -- The world inside the iteration matters only for the first moment, and only without its loops.
  have hw : w.unwound = (w.enter f).unwound := rfl
  generalize w.enter f = w₀ at h hw
  induction h generalizing w with
  | done h => exact .done (hw.trans h)
  | step h _ ih => exact .step (hw.trans h) (ih rfl)

end Follows

namespace Course

variable {w : World} {ms : List Moment} {o : Except Failure (List ActionResult) × World}

/-- **Between its moments, a run only enters and leaves loops.** -/
theorem follows (h : Course en w ms o) : Follows en w ms o.2 := by
  induction h with
  | nothing w => exact .done rfl
  | fault w f => exact .done rfl
  | deed w δ => exact .step rfl (.done rfl)
  | seq _ _ ih ih' => exact ih.append ih'
  | within it _ _ ih => exact ih.within

/-- **The results of a run that ends well are those of its moments.** -/
theorem results_eq (h : Course en w ms o) {rs : List ActionResult} (ho : o.1 = .ok rs) :
    rs = ms.flatMap (Moment.results en) := by
  induction h generalizing rs with
  | nothing w => exact (Except.ok.inj ho).symm
  | fault w f => cases ho
  | deed w δ => simp [Moment.results, ho]
  | @seq _ _ _ _ _ rs₁ r _ _ ih ih' =>
    cases r with
    | error f => cases ho
    | ok rs₂ =>
      rw [List.flatMap_append, ← ih rfl, ← ih' rfl]
      exact (Except.ok.inj ho).symm
  | within it _ _ ih =>
    rw [ih ho, List.flatMap_map]
    rfl

end Course

end WizardLogic
