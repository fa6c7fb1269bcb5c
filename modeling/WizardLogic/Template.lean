import WizardLogic.Error
import WizardLogic.Template.Call
import WizardLogic.Template.Check
import WizardLogic.Template.Fold
import WizardLogic.Template.Parser

/-!
# Templates

`Template.render` is the text of a template for an object of names. A template is read, what is known
in it is reduced to constants, it is checked, and then it is carried out. An invalid template is one
error for all reasons; other faults are passed on.
-/

namespace WizardLogic.Template

open Render

/-- The names that an object gives to a template. -/
def givenNames : Entries Value → Render (List (String × Val))
  | [] => pure []
  | (.str s, v) :: es => do
    let w ← ofValue v
    return (s, w) :: (← givenNames es)
  | (_, _) :: es => givenNames es

/-- The statements of a template, with constants for all that is known in them. -/
def prepare (template : String) : Except Failure (List Stmt) := do
  match parse? template with
  | none => invalid
  | some body =>
    let (body, _) ← (settleStmts (powersWithin maxDepth) ⟨false, false⟩ body).run .empty
    check body
    return body

/-- What the statements of a template write for the names given to it. -/
def run (body : List Stmt) (data : Entries Value) : Render String := do
  let given ← givenNames data
  let blocks := stmtsGather Stmt.sections body
  let outer : Env := ⟨[], 0, given ++ globals, ⟨false, false⟩, blocks⟩
  let env ← enter outer fun _ => Origins.ofSection ["self"] body
  let env := { env with top := env.scopes.headD 0 }
  bindSections env ["self"] body
  require (← execStmts (powersWithin maxDepth) body env)

/-- The text of a template for the names given to it. -/
def renderText (template : String) (data : Entries Value) : Except Failure String := do
  let body ← prepare template
  return ((← (run body data).run .empty)).1

/-- **The text of a template for the names given to it;** only texts are templates. -/
def render (template : Value) (data : Entries Value) : Except WizardLogic.Failure String :=
  match template with
  | .str s =>
    match renderText s data with
    | .ok out => .ok out
    | .error .invalid => .error Error.templateFailed
    | .error (.fault f) => .error f
  | _ => .error Error.templateFailed

end WizardLogic.Template
