import WizardLogic.Fault

/-!
# How rendering fails

A template is **invalid** when it cannot be read, uses a value in a way it does not admit, or names
something that does not exist; callers see one error for all of these. The remaining faults, such
as a division by zero, are passed on as they are.
-/

namespace WizardLogic.Template

/-- A failure to render. -/
inductive Failure
  | invalid
  | fault (f : Fault)
deriving DecidableEq, Repr

/-- A fault met while rendering: values of a wrong kind or a bad value make the template
invalid. -/
def Failure.ofFault : Fault → Failure
  | .wrongKind => .invalid
  | .badValue => .invalid
  | f => .fault f

/-- The outcome of an arithmetic operation as the outcome of rendering. -/
def liftFault {α : Type} : Except Fault α → Except Failure α
  | .ok a => .ok a
  | .error f => .error (.ofFault f)

/-- Fails with an invalid template. -/
def invalid {α : Type} : Except Failure α := .error .invalid

end WizardLogic.Template
