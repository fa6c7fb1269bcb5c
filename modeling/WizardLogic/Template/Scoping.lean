import WizardLogic.Template.Names
import WizardLogic.Template.Store

/-!
# Scopes at work

A name stands for its value in the nearest scope that knows it; a name that no scope knows is looked
up among the names of the whole template and then among those given to it. A scope is entered with
all its names settled (`Origins`), and when it is left its names lose their values, which what still
refers to it can see.
-/

namespace WizardLogic.Template

open Render

/-! ### Looking up -/

/-- The value of a name in the nearest scope that knows it: none if there is no such scope. -/
def findName (name : String) : List Nat → Render (Option (Option Val))
  | [] => pure none
  | id :: rest => do
    match (← readScope id).lookup name with
    | some v => return some v
    | none => findName name rest

/-- The value of a name that no scope in sight knows. -/
def givenValue (env : Env) (name : String) : Render (Option Val) := do
  match (← readScope env.top).lookup name with
  | some (some v) => return some v
  | _ => return env.given.lookup name

/-- The value of a name. -/
def readName (env : Env) (name : String) : Render Val := do
  match ← findName name env.scopes with
  | some v => return v.getD .undefined
  | none => return (← givenValue env name).getD .undefined

/-- The names that the scopes in sight know. -/
def knownNames : List Nat → Render (List String)
  | [] => pure []
  | id :: rest => do return (← readScope id).map Prod.fst ++ (← knownNames rest)

/-- Gives a name a value in the innermost scope. -/
def bindName (env : Env) (name : String) (v : Val) : Render Unit :=
  match env.scopes with
  | id :: _ => setName id name v
  | [] => pure ()

/-! ### Entering and leaving -/

/-- The names of a scope as it is entered. -/
def startNames (env : Env) (origins : Origins) : Render Scope :=
  origins.names.mapM fun (n, o) => do
    match o with
    | .given => return (n, ← givenValue env n)
    | .outer => return (n, (← findName n env.scopes).getD none)
    | .nowhere => return (n, none)
    | .parameter => return (n, none)

/-- Enters a scope: its names start where they should, parameters without a value. -/
def enterScope (env : Env) (origins : Origins) : Render Env := do
  let id ← newScope (← startNames env origins)
  return { env with scopes := id :: env.scopes }

/-- Enters a scope whose names start as the given rule says. -/
def enter (env : Env) (origins : (String → Bool) → Origins) : Render Env := do
  let known ← knownNames env.scopes
  enterScope env (origins fun n => known.contains n)

/-- Lets the names of the innermost scope start again. -/
def restartScope (env outer : Env) (origins : Origins) : Render Unit := do
  match env.scopes with
  | id :: _ => writeScope id (← startNames outer origins)
  | [] => pure ()

/-- Leaves the innermost scope: its names lose their values. -/
def leaveScope (env : Env) : Render Unit := do
  match env.scopes with
  | id :: _ => writeScope id ((← readScope id).map fun (n, _) => (n, none))
  | [] => pure ()

/-! ### Named sections -/

/-- The names that a section sees which inherits those around it: they come before those of the
template. -/
def inheritedNames (env : Env) : Render (List (String × Val)) := do
  let scopes ← env.scopes.mapM readScope
  let shown := scopes.flatten.foldl (fun (acc : Scope) e =>
    if acc.any fun x => x.1 = e.1 then acc else acc ++ [e]) []
  let values (names : Scope) : List (String × Val) :=
    names.filterMap fun (n, v) => v.map (n, ·)
  return values shown ++ values (← readScope env.top) ++ env.given

/-- What the body of a named section is given: no scope is in sight, and nothing is escaped. -/
def sectionEnv (env : Env) (inherits : Bool) : Render Env := do
  let plain : Env := { env with scopes := [], escape := ⟨false, false⟩ }
  if inherits then
    return { plain with given := ← inheritedNames env, top := ← newScope [] }
  else return plain

end WizardLogic.Template
