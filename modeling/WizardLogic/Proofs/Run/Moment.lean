import WizardLogic.Proofs.Run.Block

/-!
# The moments of a run

What a run of blocks does, one thing after the other. A *moment* is something that the run does, in
a world, while some loops are running: it executes an action, decides the condition of a block or
looks for the array of a loop (`Deed`). The loops of a moment are read off the place in the document
at which the run is, not off the state: `Engine.moments` descends into the document as the run does
and notes an iteration exactly where it enters the body of a loop.

Nothing is executed a second time to find the moments. The world of each is the one in which the
run itself arrives there, since every part of the list starts where running the part before it ends
(`Run.followed`).
-/

namespace WizardLogic

/-! ### Moments -/

/-- A loop that is being run. -/
structure Loop where
  /-- The block that the loop is. -/
  block : Value
  /-- The world in which the loop was come upon, before its array was found. -/
  start : World
  /-- The array that the loop goes through. -/
  array : List Value

/-- One iteration of a loop that is being run. -/
structure Iteration extends Loop where
  /-- The position of the item. -/
  index : Nat
  item : Value

/-- The frame that stands for an iteration on the stack. -/
def Iteration.frame (it : Iteration) : Frame :=
  ⟨it.block.field "name", .int it.index, it.item, it.array⟩

/-- What a run does at a moment. -/
inductive Deed
  /-- It executes an action. -/
  | action (d : Value)
  /-- It decides the condition of a block. -/
  | condition (c : Value)
  /-- It looks for the array of a loop. -/
  | source (d : Value)

/-- Something that a run does. -/
structure Moment where
  deed : Deed
  /-- The iterations inside which it is done, innermost first. -/
  loops : List Iteration
  /-- The world in which it is done. -/
  world : World

/-- The moment, seen from outside one more iteration. -/
def Moment.inside (m : Moment) (it : Iteration) : Moment := { m with loops := m.loops ++ [it] }

/-- What follows a run, from where it ends; nothing if it fails. -/
def Run.followed {α : Type} (r : Run α) (w : World) (next : α → World → List Moment) :
    List Moment :=
  match r.runFrom w with
  | (.ok a, w') => next a w'
  | (.error _, _) => []

theorem Run.followed_ok {α : Type} {r : Run α} {w w' : World} {a : α}
    (h : r.runFrom w = (.ok a, w')) (next : α → World → List Moment) :
    r.followed w next = next a w' := by
  rw [followed, h]

theorem Run.followed_error {α : Type} {r : Run α} {w w' : World} {e : Failure}
    (h : r.runFrom w = (.error e, w')) (next : α → World → List Moment) :
    r.followed w next = [] := by
  rw [followed, h]

namespace Engine

/-! ### The moments of the parts of a block -/

/-- What a run does at a moment, as a run; only an action has a result. -/
def perform (en : Engine) : Deed → Run (List ActionResult)
  | .action d => ExceptT.lift do return [← en.runAction d]
  | .condition c => do
    let _ ← Run.look fun s => en.evaluate s c
    return []
  | .source d => do
    let _ ← Run.look fun s => en.resolveValue s d
    return []

/-- The moments of actions that run one after the other. -/
def momentsOfEach (en : Engine) : List Value → World → List Moment
  | [], _ => []
  | d :: rest, w => ⟨.action d, [], w⟩ :: en.momentsOfEach rest ((en.runAction d).run w).2

/-- The moments of the sibling actions that a value lists. -/
def momentsOfActions (en : Engine) (v : Value) (w : World) : List Moment :=
  match siblingsOf v with
  | .error _ => []
  | .ok items => en.momentsOfEach items w

/-- The moment at which the condition of a block is decided, if the block has one. -/
def momentOfCondition (b : Value) (w : World) : List Moment :=
  if (b.field "conditions").isNull then [] else [⟨.condition (b.field "conditions"), [], w⟩]

/-- The moment at which the array of a loop is looked for, if the loop is complete. -/
def momentOfSource (b : Value) (w : World) : List Moment :=
  if !(b.field "name").isTrue || (b.field "context").isNull then []
  else [⟨.source (b.field "context"), [], w⟩]

/-- The moments of a block's own actions and of what comes after them. -/
def momentsOfBody (en : Engine) (b : Value) (next : World → List Moment) (w : World) :
    List Moment :=
  en.momentsOfActions (b.field "actions") w ++
    (en.runActions (b.field "actions")).followed w fun _ w' => next w'

/-- The moments of the iterations of a loop from a position on. -/
def momentsOfIterations (loop : Loop) (body : Run (List ActionResult))
    (inner : World → List Moment) : Nat → List Value → World → List Moment
  | _, [], _ => []
  | i, item :: rest, w =>
    let it : Iteration := { loop with index := i, item }
    (inner (w.enter it.frame)).map (·.inside it) ++
      (Run.within it.frame body).followed w fun _ w' =>
        momentsOfIterations loop body inner (i + 1) rest w'

/-! ### The moments of blocks -/

mutual

/-- The moments of a block. -/
def momentsOfBlock (en : Engine) (b : Value) (w : World) : List Moment :=
  match b with
  | .obj es =>
    match en.blockRule? (.obj es) with
    | none | some .actions => en.momentsOfActions ((Value.obj es).field "actions") w
    | some .conditional =>
      momentOfCondition (.obj es) w ++ (en.passes (.obj es)).followed w fun passed w' =>
        en.momentsOfBody (.obj es) (moments en ((Value.obj es).field (branchField passed))) w'
    | some .forEach =>
      momentOfSource (.obj es) w ++ (en.loopItems (.obj es)).followed w fun items w' =>
        momentsOfIterations ⟨.obj es, w, items⟩ (en.loopBody (.obj es))
          (en.momentsOfBody (.obj es) (moments en ((Value.obj es).field "blocks"))) 0 items w'
    | some .scheduleTask => moments en ((Value.obj es).field "blocks") w
    | some (.custom _) => []
  | _ => []
termination_by 2 * sizeOf b
decreasing_by
  all_goals first
    | have := Value.sizeOf_field_lt es "blocks"; omega
    | have := Value.sizeOf_field_lt es (branchField passed); omega

/-- **The moments of the sibling blocks that a value lists.** -/
def moments (en : Engine) (v : Value) (w : World) : List Moment :=
  match _h : siblingsOf v with
  | .error _ => []
  | .ok items => momentsOfList en items w
termination_by 2 * sizeOf v + 1
decreasing_by have := sizeOf_siblings_le _h; omega

/-- The moments of blocks that run one after the other. -/
def momentsOfList (en : Engine) (items : List Value) (w : World) : List Moment :=
  match items with
  | [] => []
  | b :: rest =>
    momentsOfBlock en b w ++ (en.runBlock b).followed w fun _ w' => momentsOfList en rest w'
termination_by 2 * sizeOf items
decreasing_by all_goals (simp only [List.cons.sizeOf_spec]; omega)

end

variable {en : Engine}

theorem momentsOfBlock_of_not_isObject {b : Value} (h : b.isObject = false) (w : World) :
    en.momentsOfBlock b w = [] := by
  cases b with
  | obj es => exact absurd h (by simp [Value.isObject])
  | _ =>
    rw [momentsOfBlock]
    intro es h
    cases h

theorem momentsOfBlock_plain {es : Entries Value}
    (h : en.blockRule? (.obj es) = none ∨ en.blockRule? (.obj es) = some .actions) (w : World) :
    en.momentsOfBlock (.obj es) w = en.momentsOfActions ((Value.obj es).field "actions") w := by
  rcases h with h | h <;> rw [momentsOfBlock, h]

theorem momentsOfBlock_conditional {es : Entries Value}
    (h : en.blockRule? (.obj es) = some .conditional) (w : World) :
    en.momentsOfBlock (.obj es) w =
      momentOfCondition (.obj es) w ++ (en.passes (.obj es)).followed w fun passed w' =>
        en.momentsOfBody (.obj es) (en.moments ((Value.obj es).field (branchField passed))) w' := by
  rw [momentsOfBlock, h]

theorem momentsOfBlock_forEach {es : Entries Value}
    (h : en.blockRule? (.obj es) = some .forEach) (w : World) :
    en.momentsOfBlock (.obj es) w =
      momentOfSource (.obj es) w ++ (en.loopItems (.obj es)).followed w fun items w' =>
        momentsOfIterations ⟨.obj es, w, items⟩ (en.loopBody (.obj es))
          (en.momentsOfBody (.obj es) (en.moments ((Value.obj es).field "blocks"))) 0 items w' := by
  rw [momentsOfBlock, h]

theorem momentsOfBlock_scheduleTask {es : Entries Value}
    (h : en.blockRule? (.obj es) = some .scheduleTask) (w : World) :
    en.momentsOfBlock (.obj es) w = en.moments ((Value.obj es).field "blocks") w := by
  rw [momentsOfBlock, h]

theorem moments_of_error {v : Value} {f : Fault} (h : siblingsOf v = .error f) (w : World) :
    en.moments v w = [] := by
  rw [moments]
  split
  · rfl
  · next hg => cases hg.symm.trans h

theorem moments_of_ok {v : Value} {items : List Value} (h : siblingsOf v = .ok items)
    (w : World) : en.moments v w = en.momentsOfList items w := by
  rw [moments]
  split
  · next hg => cases hg.symm.trans h
  · next hg => rw [Except.ok.inj (hg.symm.trans h)]

@[simp] theorem momentsOfList_nil (w : World) : en.momentsOfList [] w = [] := by
  rw [momentsOfList]

theorem momentsOfList_cons (b : Value) (rest : List Value) (w : World) :
    en.momentsOfList (b :: rest) w =
      en.momentsOfBlock b w ++
        (en.runBlock b).followed w fun _ w' => en.momentsOfList rest w' := by
  rw [momentsOfList]

end Engine

end WizardLogic
