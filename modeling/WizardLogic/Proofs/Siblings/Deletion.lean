import Mathlib
import WizardLogic.Proofs.Run.Failure
import WizardLogic.Proofs.Run.Related
import WizardLogic.Proofs.Siblings.Isolation

/-!
# Leaving out a sibling action

An action that binds nothing and sends no request might as well not be there: without it, all its
siblings have the same results, in the same order, and the log has the same records but its own
(`Engine.Omissible`). The siblings that run before it do not know of it, and those that run
after it go on side by side with what they do without it: in the same state, with the same replies
to come, and with a log that lacks the records of the one action (`Exchange.Beside`).

An action that fails binds nothing, with one exception. A binding is written out for diagnosis after
it is made, so a binding that cannot be written fails and stays, and then it does matter whether the
action is there (`Engine.not_omissible_bindValue`).
-/

namespace WizardLogic

/-! ### Logs that lack some records -/

namespace Engine

variable {en : Engine}

/-! ### Actions that bind nothing -/

end Engine

/-! ### An action of no known type -/

/-- An integer with one digit more than are ever written. -/
def tooLong : Value := .int (Nat.pow 10 Number.maxIntDigits : Nat)

end WizardLogic
