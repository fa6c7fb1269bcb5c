import WizardLogic.Template.Store

/-!
# Going through values

What can be gone through has an iterator, a cell that remembers what is left. An iterator of a list
or of an object sees the changes that are made meanwhile. `elements` is all that going through a
value yields; an iterator is used up by it.

What an iterator yields next may take a filter or a test, so it is one of the `Powers` that the
definitions here are given.
-/

namespace WizardLogic.Template

open Render

/-- The characters of a text as values. -/
def charVals (s : String) : List Val := s.toList.map fun c => .str (String.ofList [c])

/-- The elements of a value that holds them itself, or in a cell that is no iterator. -/
def held? (v : Val) : Render (Option (List Val)) :=
  match v with
  | .undefined => pure (some [])
  | .str s | .markup s => pure (some (charVals s))
  | .bytes bs => pure (some (bs.map fun b => .int b.toNat))
  | .tuple xs | .set xs => pure (some xs)
  | .group k xs => pure (some [k, xs])
  | .range a b c => pure (some (Val.rangeItems a b c))
  | .view kind id => do return some (Val.viewItems kind (← dictEntries id))
  | .cell .list id => do return some (← listItems id).toList
  | .cell .dict id => do return some ((← dictEntries id).map Prod.fst)
  | _ => pure none

/-- The cell of an iterator of a value, if there is going through it. -/
def iterator? (v : Val) : Render (Option Nat) := do
  let fresh (s : Stream) : Render (Option Nat) := do return some (← newCell (.iterator s))
  match v with
  | .cell .iterator id => return some id
  | .cell .loop id => fresh (.loop id)
  | .cell .list id => fresh (.list id 0)
  | .cell .dict id => fresh (.entries .keys id 0 (← dictEntries id).length false)
  | .view kind id => fresh (.entries kind id 0 (← dictEntries id).length false)
  | v =>
    match ← held? v with
    | some xs => fresh (.given xs)
    | none => return none

/-- The most elements that are ever taken from an iterator. -/
def maxElements : Nat := 10000000

/-- The elements left in an iterator, behind those taken before, which stand backwards. `fuel`
bounds their number. -/
def drainInto (p : Powers) (id : Nat) : Nat → List Val → Render (List Val)
  | 0, taken => pure taken.reverse
  | fuel + 1, taken => do
    match ← p.next id with
    | some v => drainInto p id fuel (v :: taken)
    | none => return taken.reverse

/-- The elements left in an iterator. -/
def drain (p : Powers) (id : Nat) : Render (List Val) := drainInto p id maxElements []

/-- **All elements of a value;** a value that cannot be gone through is invalid. -/
def elements (p : Powers) (v : Val) : Render (List Val) := do
  match ← held? v with
  | some xs => return xs
  | none =>
    match ← iterator? v with
    | some id => drain p id
    | none => invalid

/-- The first element of a value, if it has one; an iterator moves on by one. -/
def firstElement (p : Powers) (v : Val) : Render (Option Val) := do
  match ← held? v with
  | some xs => return xs.head?
  | none =>
    match ← iterator? v with
    | some id => p.next id
    | none => invalid

/-! ### Lengths -/

/-- The number of elements of a value that knows it. -/
def length? (v : Val) : Render (Option Nat) :=
  match v with
  | .undefined => pure (some 0)
  | .str s | .markup s => pure (some s.length)
  | .bytes bs => pure (some bs.length)
  | .tuple xs | .set xs => pure (some xs.length)
  | .group _ _ => pure (some 2)
  | .range a b c => pure (some (Val.rangeLength a b c))
  | .view _ id => do return some (← dictEntries id).length
  | .cell .list id => do return some (← listItems id).size
  | .cell .dict id => do return some (← dictEntries id).length
  | _ => pure none

/-- Replaces the state of a running loop. -/
def writeLoop (id : Nat) (s : LoopState) : Render Unit := writeCell id (.loop s)

/-- The number of elements of a running loop. If it is not known, all that is left is gone through
now and kept. A loop may go through another one; `fuel` bounds how many do so. -/
def loopLength (p : Powers) : Nat → Nat → Render Nat
  | 0, _ => invalid
  | fuel + 1, id => do
    match ← readCell id with
    | .loop s =>
      match s.length, s.subject with
      | some n, _ => return n
      | none, .cell .loop outer =>
        let n ← loopLength p fuel outer
        keep id n none
        return n
      | none, subject =>
        match ← length? subject with
        | some n =>
          keep id n none
          return n
        | none =>
          let left ← drain p s.source
          let n := left.length + s.count + (if s.next.isSome then 1 else 0)
          keep id n (some left)
          return n
    | _ => invalid
where
  /-- Notes the length of a loop, and what is left of its elements if they have been taken. -/
  keep (id n : Nat) (left : Option (List Val)) : Render Unit := do
    match ← readCell id with
    | .loop s =>
      let source ← match left with
        | some xs => newCell (.iterator (.given xs))
        | none => pure s.source
      writeLoop id { s with length := some n, source := source }
    | _ => pure ()

/-- The most loops that go through one another. -/
def maxLoops : Nat := 100

/-- The element that a running loop yields next; it is kept until the loop comes to it. -/
def lookAhead (p : Powers) (id : Nat) (s : LoopState) : Render (Option Val) := do
  match s.next with
  | some v => return some v
  | none =>
    let next ← p.next s.source
    writeLoop id { s with next := next }
    return next

/-- The next element of a running loop, which moves on to it. -/
def advanceLoop (p : Powers) (id : Nat) (s : LoopState) : Render (Option Val) := do
  let next ← match s.next with
    | some v => pure (some v)
    | none => p.next s.source
  match next with
  | some v =>
    writeLoop id
      { s with next := none, count := s.count + 1, previous := s.current, current := v }
    return some v
  | none => return none

/-- The number of elements of a value that has a length. -/
def lengthOf (p : Powers) (v : Val) : Render Nat := do
  match ← length? v with
  | some n => return n
  | none =>
    match v with
    | .cell .loop id => loopLength p maxLoops id
    | _ => invalid

end WizardLogic.Template
