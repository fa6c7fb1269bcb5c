import WizardLogic.Store.Basic

/-!
# Wizards in memory

A store that keeps wizards as they are. It is asked for any name; only for storing is the name
looked at.
-/

namespace WizardLogic

/-- Wizards by name. -/
structure MemoryStore where
  wizards : Entries Wizard := []

namespace MemoryStore

/-- The wizard under a name. -/
def load (s : MemoryStore) (name : Value) : Except Failure Wizard :=
  match name.toKey? with
  | none => .error (.fault .wrongKind)
  | some key =>
    match s.wizards.get? key with
    | some w => .ok w
    | none => .error (Error.noWizard name.text)

/-- The store with a wizard under a name. -/
def save (s : MemoryStore) (name : Value) (w : Wizard) : Except Failure MemoryStore := do
  let key ← Store.nameOf name
  return { s with wizards := s.wizards.insert (.str key) w }

/-- The names in order. -/
def names (s : MemoryStore) : List String :=
  Store.inOrder (s.wizards.keys.filterMap fun
    | .str name => some name
    | _ => none)

instance : Store MemoryStore := ⟨load, save, names⟩

end MemoryStore

end WizardLogic
