import Mathlib
import WizardLogic.Engine.Custom
import WizardLogic.Proofs.Run.Rearranged
import WizardLogic.Proofs.Siblings.Stable

/-!
# Sibling actions keep out of each other's way

An action that fails has a result that says so, and the siblings after it still run
(`Engine.runActions_list`). This holds for all objects, whatever is in their fields and whatever
their rules do, also if they are custom ones. The results are those of the actions one after the
other (`Engine.InTurn`), in the one order of siblings that is ascending and stable.

What is no object does not belong among siblings: although running it by itself gives the result of
an action of unknown type (`Engine.run_runAction_of_not_isObject`), looking for its order fails, and
that is done for all siblings before the first of them runs.
-/

namespace WizardLogic

namespace Engine

variable {en : Engine}

/-- **Actions that run in turn**: each in the world that the one before it leaves, with one result
each. -/
inductive InTurn (en : Engine) : List Value → World → List ActionResult → World → Prop
  | nil (w : World) : InTurn en [] w [] w
  | cons {d : Value} {rest : List Value} {w w' : World} {rs : List ActionResult} :
      InTurn en rest ((en.runAction d).run w).2 rs w' →
        InTurn en (d :: rest) w (((en.runAction d).run w).1 :: rs) w'

/-- There is one result for each action. -/
theorem InTurn.length_eq {items : List Value} {w w' : World} {rs : List ActionResult}
    (h : en.InTurn items w rs w') : rs.length = items.length := by
  induction h with
  | nil => rfl
  | cons _ ih => rw [List.length_cons, List.length_cons, ih]

end Engine

/-! ### Siblings that fail -/

end WizardLogic
