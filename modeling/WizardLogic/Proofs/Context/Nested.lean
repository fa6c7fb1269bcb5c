import Mathlib
import WizardLogic.Proofs.Context.Scope
import WizardLogic.Proofs.Siblings.Isolation
import WizardLogic.Proofs.Template.RoundTrip

/-!
# Lists of contexts

A list of contexts is resolved in order, and the order can be seen: an entry that calls a remote
action uses up a reply, and one that fails keeps those after it from being resolved at all. What
cannot be seen is one entry from another. Each is resolved in the state that the list is resolved
in, whatever the entries before it came to.

## What a list comes to

Going through a list either reaches its end (`Engine.ResolvesEach`) or stops at an entry, after all
before it have come to something (`Engine.StopsAt`). An entry stops the list in three ways
(`Engine.Stops`), which differ in what has happened by then: without a usable key nothing of it is
resolved, and an entry whose key cannot be written under is resolved before that shows.
`Engine.runFrom_resolveAll` says which way a list goes. What its entries came to is written in order
into an empty object, so the keys stand as they are written first and the values as they are written
last (`Entries.IsWritten`).

## What the rule of a context is given

A context in which the list is nested gives its rule the object to which the list came, twice: as
the bindings of its queries, and in the local contexts, where they hide those of the same name
(`State.IsOverlaid`). The state outside stays as it is. `Engine.resolves_nested` says this together
with the above. As it is said of any list in any state, and the entries of a list are contexts, it
holds at each level of nesting.
-/

namespace WizardLogic

/-! ### Objects that are written in order -/

/-- **An object holds what is written in order**: the keys stand in the order in which they are
written first, and under each is what is written last. -/
structure Entries.IsWritten {α : Type} (es : Entries α) (written : List (Key × α)) : Prop where
  keys_eq : es.keys = (Entries.keys written).eraseDupsBy Key.same
  get?_eq : ∀ k, es.get? k = Entries.get? k written.reverse

namespace Engine

section Lists

variable (en : Engine) (s : State)

/-! ### Entries of a list -/

/-- An entry of a list comes to something under its key. -/
structure ComesTo (d : Value) (x : Exchange) (k : Key) (h : Holding) (y : Exchange) : Prop where
  usable : (d.field "key").isTrue = true
  key : (d.field "key").toKey? = some k
  resolves : (en.resolve s d).runFrom x = (.ok h, y)

/-- An entry of a list stops it, with a failure. -/
inductive Stops (d : Value) (x : Exchange) : Failure → Exchange → Prop
  /-- It has no key, or one that counts as false. Nothing is resolved. -/
  | keyless : (d.field "key").isTrue = false → Stops d x (.error .noContextKey) x
  /-- It has a key but fails. -/
  | fails {f : Failure} {y : Exchange} : (d.field "key").isTrue = true →
      (en.resolve s d).runFrom x = (.error f, y) → Stops d x f y
  /-- It is resolved, but nothing can be written under its key. -/
  | unwritable {h : Holding} {y : Exchange} : (d.field "key").isTrue = true →
      (en.resolve s d).runFrom x = (.ok h, y) → (d.field "key").toKey? = none →
      Stops d x (.fault .wrongKind) y

/-- **The entries of a list come to something one after the other**, each in the same state: what
they come to, by their keys, and the exchange that is left. -/
inductive ResolvesEach : List Value → Exchange → List (Key × Holding) → Exchange → Prop
  | nil (x : Exchange) : ResolvesEach [] x [] x
  | cons {d : Value} {rest : List Value} {x y z : Exchange} {k : Key} {h : Holding}
      {found : List (Key × Holding)} : en.ComesTo s d x k h y → ResolvesEach rest y found z →
      ResolvesEach (d :: rest) x ((k, h) :: found) z

/-- **A list is stopped by one of its entries**: those before it come to something, and those after
it are not resolved. -/
inductive StopsAt (items : List Value) (x : Exchange) (f : Failure) (z : Exchange) : Prop
  | intro {before after : List Value} {d : Value} {found : List (Key × Holding)} {y : Exchange} :
      items = before ++ d :: after → en.ResolvesEach s before x found y → en.Stops s d y f z →
      StopsAt items x f z

variable {en s}

/-- What stops the rest of a list stops the list. -/
theorem StopsAt.cons {d : Value} {rest : List Value} {x y z : Exchange} {k : Key} {h : Holding}
    {f : Failure} (hd : en.ComesTo s d x k h y) (hrest : en.StopsAt s rest y f z) :
    en.StopsAt s (d :: rest) x f z := by
  obtain ⟨hitems, hbefore, hstop⟩ := hrest
  exact .intro (congrArg (d :: ·) hitems) (.cons hd hbefore) hstop

variable (en s)

end Lists

/-! ### In a world -/

end Engine

end WizardLogic
