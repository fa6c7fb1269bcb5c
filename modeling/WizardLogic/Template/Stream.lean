import WizardLogic.Template.Operator

/-!
# What iterators yield

An iterator of a list, an object or a running loop yields what is there when it comes to it. The
filters that go through a collection element by element yield an iterator too; they begin only when
it is asked for the first element, so what is wrong with their arguments shows then.

`nextOf` moves an iterator on.
-/

namespace WizardLogic.Template

open Render

/-- A value with letter case set aside, for comparing. -/
def foldCase (v : Val) : Val :=
  match v.text? with
  | some s => .ofChars (Text.lower s.toList)
  | none => v

/-- What an attribute path leads to, with or without letter case. -/
def measure (p : Powers) (path : List Val) (default : Option Val) (caseSensitive : Bool)
    (v : Val) : Render Val := do
  let w ← followPath p default v path
  return if caseSensitive then w else foldCase w

/-- The iterator of a value that has to have one. -/
def sourceOf (v : Val) : Render Nat := do
  match ← iterator? v with
  | some id => return id
  | none => invalid

/-! ### Beginning -/

/-- So many lists of nearly equal length. If there is something to fill them with, it is added to
those that have got no element in excess of the common length. -/
def slices (count : Nat) (fill : Val) (xs : List Val) : List (List Val) :=
  let size := xs.length / count
  let extra := xs.length % count
  (List.range count).map fun i =>
    let start := i * size + min i extra
    let here := (xs.drop start).take (size + (if i < extra then 1 else 0))
    match fill with
    | .none => here
    | v => if i < extra then here else here ++ [v]

/-- The elements of a value in lists, as many as an argument says. -/
def startSlice (p : Powers) (v count fill : Val) : Render Stream := do
  let xs ← elements p v
  let _ ← applyBinary p .floorDiv (.int xs.length) count
  let n ← ofOutcome (intOf count)
  let lists ← (slices n.toNat fill xs).mapM newList
  return .given lists

/-- The choice that a filter makes among the elements of a value: it keeps those that pass a test,
or those that fail it, and may ask an attribute of theirs. -/
def startChoice (keep viaAttribute : Bool) (v : Val) (a : CallArgs) : Render Stream := do
  let (path, rest) ← match viaAttribute, a.positional with
    | true, path :: rest => do pure (← ofOutcome (pathParts path), rest)
    | true, [] => invalid
    | false, args => pure ([], args)
  let test := match rest with
    | [] => none
    | name :: args => some (name, (⟨args, a.named⟩ : CallArgs))
  return .chosen keep path test (← sourceOf v)

/-- A filter, or the look-up of an attribute, for each of the elements of a value. -/
def startMap (v : Val) (a : CallArgs) : Render Stream := do
  match a.positional, a.named.lookup "attribute" with
  | [], some path =>
    if a.named.any fun (n, _) => n != "attribute" && n != "default" then invalid
    else
      let default := match a.named.lookup "default" with
        | some .none => none
        | d => d
      return .looked (← ofOutcome (pathParts path)) default (← sourceOf v)
  | [], none => invalid
  | f :: rest, _ => return .filtered f ⟨rest, a.named⟩ (← sourceOf v)

/-- What a filter that has not yet begun starts from. -/
def startFilter (p : Powers) (name : String) (v : Val) (a : CallArgs) : Render Stream := do
  let ifAny (s : Render Stream) : Render Stream := do if ← isTrue v then s else return .ended
  match name with
  | "items" =>
    match v with
    | .undefined => return .ended
    | .cell .dict id => return .entries .items id 0 (← dictEntries id).length false
    | _ => invalid
  | "slice" =>
    let b ← ofOutcome (a.bind ["slices", "fill_with"])
    startSlice p v (argument b 0 .none) (argument b 1 .none)
  | "batch" =>
    let b ← ofOutcome (a.bind ["linecount", "fill_with"])
    return .batched (argument b 0 .none) (argument b 1 .none) [] (← sourceOf v)
  | "unique" =>
    let b ← ofOutcome (a.bind ["case_sensitive", "attribute"])
    let path ← ofOutcome (pathParts (argument b 1 .none))
    return .distinct path (← isTrue (argument b 0 (.bool false))) [] (← sourceOf v)
  | "map" => ifAny (startMap v a)
  | "select" => ifAny (startChoice true false v a)
  | "reject" => ifAny (startChoice false false v a)
  | "selectattr" => ifAny (startChoice true true v a)
  | "rejectattr" => ifAny (startChoice false true v a)
  | _ => invalid

/-! ### Going on -/

/-- The last list of a series, filled up to a size if there is something to fill it with. -/
def lastBatch (p : Powers) (size fill : Val) (held : List Val) : Render (List Val) := do
  match fill with
  | .none => return held
  | fill =>
    let n : Val := .int held.length
    if ← compareOrder .lt n size then
      let missing ← ofOutcome (intOf (← applyBinary p .sub size n))
      return held ++ List.replicate missing.toNat fill
    else return held

/-- The next list of a series, given what is held already, and how the series goes on. `fuel` bounds
the number of elements. -/
def nextBatch (p : Powers) (size fill : Val) (source : Nat) :
    Nat → List Val → Render (Option Val × Stream)
  | 0, _ => pure (none, .ended)
  | fuel + 1, held => do
    match ← p.next source with
    | none =>
      if held.isEmpty then return (none, .ended)
      else return (some (← newList (← lastBatch p size fill held)), .ended)
    | some x =>
      if ← areEqual (.int held.length) size then
        return (some (← newList held), .batched size fill [x] source)
      else nextBatch p size fill source fuel (held ++ [x])

/-- Whether an element is to be kept. -/
def isChosen (p : Powers) (keep : Bool) (path : List Val) (test : Option (Val × CallArgs))
    (x : Val) : Render Bool := do
  let w ← followPath p none x path
  let answer ← match test with
    | none => isTrue w
    | some (name, args) =>
      match name.text? with
      | some n => p.test n w args
      | none => invalid
  return answer = keep

/-- The next of the elements that are to be kept. `fuel` bounds the number of those left out. -/
def nextKept (p : Powers) (keeps : Val → Render (Option Val)) (source : Nat) :
    Nat → Render (Option Val)
  | 0 => pure none
  | fuel + 1 => do
    match ← p.next source with
    | none => return none
    | some x =>
      match ← keeps x with
      | some y => return some y
      | none => nextKept p keeps source fuel

/-- The next of the elements whose attribute has not been seen, and what has been seen by then. -/
def nextDistinct (p : Powers) (path : List Val) (caseSensitive : Bool) (source : Nat) :
    Nat → List Val → Render (Option Val × List Val)
  | 0, seen => pure (none, seen)
  | fuel + 1, seen => do
    match ← p.next source with
    | none => return (none, seen)
    | some x =>
      let m ← measure p path none caseSensitive x
      if !m.isHashable then invalid
      else if Val.holdsKey m seen then nextDistinct p path caseSensitive source fuel seen
      else return (some x, m :: seen)

/-- The next element of a stream that has begun, and how it goes on. -/
def advance (p : Powers) (s : Stream) : Render (Option Val × Stream) := do
  match s with
  | .ended | .waiting _ _ _ => return (none, .ended)
  | .given [] => return (none, .ended)
  | .given (x :: xs) => return (some x, .given xs)
  | .list id i =>
    match (← listItems id)[i]? with
    | some x => return (some x, .list id (i + 1))
    | none => return (none, .ended)
  | .listBack _ 0 => return (none, .ended)
  | .listBack id (left + 1) =>
    match (← listItems id)[left]? with
    | some x => return (some x, .listBack id left)
    | none => return (none, .ended)
  | .entries kind id i size backwards =>
    let es ← dictEntries id
    if es.length != size then fail (.fault .unsteady)
    else
      let xs := Val.viewItems kind es
      match (if backwards then xs.reverse else xs)[i]? with
      | some x => return (some x, .entries kind id (i + 1) size backwards)
      | none => return (none, .ended)
  | .loop id =>
    match ← readCell id with
    | .loop l =>
      match ← advanceLoop p id l with
      | some x => return (some (.tuple [x, .cell .loop id]), s)
      | none => return (none, s)
    | _ => return (none, .ended)
  | .looked path default source =>
    match ← p.next source with
    | some x => return (some (← followPath p default x path), s)
    | none => return (none, .ended)
  | .filtered f args source =>
    match ← p.next source with
    | some x =>
      match f.text? with
      | some n => return (some (← p.filter n x args), s)
      | none => invalid
    | none => return (none, .ended)
  | .chosen keep path test source =>
    let keeps (x : Val) : Render (Option Val) := do
      return if ← isChosen p keep path test x then some x else none
    match ← nextKept p keeps source maxElements with
    | some x => return (some x, s)
    | none => return (none, .ended)
  | .passing target test env source =>
    match ← nextKept p (p.passes target test env) source maxElements with
    | some x => return (some x, s)
    | none => return (none, .ended)
  | .batched size fill held source => nextBatch p size fill source maxElements held
  | .distinct path caseSensitive seen source =>
    match ← nextDistinct p path caseSensitive source maxElements seen with
    | (some x, seen) => return (some x, .distinct path caseSensitive seen source)
    | (none, _) => return (none, .ended)

/-- **The next element of an iterator,** which moves on. -/
def nextOf (p : Powers) (id : Nat) : Render (Option Val) := do
  match ← readCell id with
  | .iterator s =>
    let s ← match s with
      | .waiting name v a => startFilter p name v a
      | s => pure s
    let (x, s) ← advance p s
    writeCell id (.iterator s)
    return x
  | _ => return none

end WizardLogic.Template
