import WizardLogic.Document.Printer
import WizardLogic.Error

/-!
# Stores

A store keeps wizards under names. A name consists of ASCII letters, digits, underscores and
hyphens; a line feed behind it is let through. What a store does is a matter of its kind, so `Store`
is a class: storing gives the changed store back.
-/

namespace WizardLogic

/-- The operations of a store. -/
class Store (σ : Type) where
  /-- The wizard under a name. -/
  load : σ → Value → Except Failure Wizard
  /-- The store with a wizard under a name. -/
  save : σ → Value → Wizard → Except Failure σ
  /-- The names in order, each once. -/
  names : σ → List String

namespace Store

/-! ### Names -/

/-- Whether a character can stand in a name. -/
def isNameChar (c : Char) : Bool := c.isAlphanum || c = '_' || c = '-'

/-- The characters without a line feed at the end. -/
def dropLineFeed (cs : List Char) : List Char :=
  if cs.getLast? = some '\n' then cs.dropLast else cs

/-- Whether a text can name a wizard. -/
def isName (s : String) : Bool :=
  let cs := dropLineFeed s.toList
  !cs.isEmpty && cs.all isNameChar

/-- The name that a value is. -/
def nameOf (v : Value) : Except Failure String :=
  match v with
  | .str s => if isName s then .ok s else .error (Error.wizardName v)
  | _ => .error (Error.wizardName v)

/-- Names in the order of their characters, each once. -/
def inOrder (names : List String) : List String := names.eraseDups.mergeSort fun a b => a ≤ b

/-- The store with the wizard under one name also under another. -/
def copy {σ : Type} [Store σ] (s : σ) (source target : Value) : Except Failure σ := do
  save s target (← load s source)

end Store

end WizardLogic
