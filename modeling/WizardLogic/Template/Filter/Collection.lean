import WizardLogic.Template.Method
import WizardLogic.Template.Stream
import WizardLogic.Template.Test

/-!
# Filters of collections

Sorting, grouping and adding up the elements of a value, and single elements of it.
-/

namespace WizardLogic.Template

open Render

/-- The measure by which elements are sorted: the values of several attribute paths, or of one. -/
def measures (p : Powers) (paths : Val) (caseSensitive : Bool) : Render (Val → Render Val) := do
  let split : List Val := match paths.text? with
    | some s => (Text.split [','] none s.toList).map .ofChars
    | none => [paths]
  let parts ← split.mapM fun path => ofOutcome (pathParts path)
  return fun v => do return .tuple (← parts.mapM fun path => measure p path none caseSensitive v)

/-- The extreme element of a value by a measure, undefined if there is none. -/
def extreme (p : Powers) (op : CompareOp) (v path : Val) (caseSensitive : Bool) : Render Val := do
  match ← elements p v with
  | [] => return .undefined
  | x :: xs =>
    let parts ← ofOutcome (pathParts path)
    let key (v : Val) : Render Val := measure p parts none caseSensitive v
    let first ← key x
    let best ← xs.foldlM (fun (best : Val × Val) y => do
      let m ← key y
      if ← compareOrder op m best.2 then return (y, m) else return best) (x, first)
    return best.1

/-- Neighbours with equal measures put together. -/
def groupRuns : List (Val × Image) → List (Image × List Val)
  | [] => []
  | (x, m) :: rest =>
    match groupRuns rest with
    | (n, ys) :: groups =>
      if m.eq n then (m, x :: ys) :: groups else (m, [x]) :: (n, ys) :: groups
    | [] => [(m, [x])]

/-- The elements of a value grouped by what an attribute path leads to. -/
def groupBy (p : Powers) (v path default : Val) (caseSensitive : Bool) : Render Val := do
  let parts ← ofOutcome (pathParts path)
  let default := match default with
    | .none => none
    | d => some d
  let key (caseSensitive : Bool) (x : Val) : Render Val :=
    measure p parts default caseSensitive x
  let sorted ← sortElements (← elements p v) (key caseSensitive) false
  let measured ← sorted.mapM fun x => do return (x, ← look (← key caseSensitive x))
  let groups ← (groupRuns measured).mapM fun (_, xs) => do
    let shown ← key true (xs.headD .undefined)
    return .group shown (← newList xs)
  newList groups

/-- The sum of the elements of a value, or of one of their attributes. -/
def sumFilter (p : Powers) (v path start : Val) : Render Val := do
  let parts ← ofOutcome (pathParts path)
  let xs ← (← elements p v).mapM fun x => followPath p none x parts
  match start with
  | .str _ | .markup _ | .bytes _ => invalid
  | start => xs.foldlM addVals start

/-- The entries of an object sorted by their keys or their values. -/
def dictSort (v : Val) (caseSensitive : Bool) (by' : Val) (reverse : Val) : Render Val := do
  let byKey ← match by'.text? with
    | some "key" => pure true
    | some "value" => pure false
    | _ => invalid
  match v with
  | .undefined => invalid
  | .cell .dict id =>
    let key (x : Val) : Render Val :=
      let part := match x with
        | .tuple [k, w] => if byKey then k else w
        | x => x
      pure (if caseSensitive then part else foldCase part)
    let xs := Val.viewItems .items (← dictEntries id)
    newList (← sortElements xs key (← ofOutcome (reverseOf reverse)))
  | _ => fail (.fault .noMember)

/-- The last element of a value that can be gone through backwards. -/
def lastElement (v : Val) : Render Val := do
  match v with
  | .markup s =>
    match s.toList.getLast? with
    | some c => return .markup (String.ofList [c])
    | none => return .undefined
  | .set _ => invalid
  | v =>
    match ← held? v with
    | some xs => return xs.getLast?.getD .undefined
    | none => invalid

/-- The elements of a value backwards. -/
def reversed (p : Powers) (v : Val) : Render Val := do
  match v with
  | .str s => return .ofChars s.toList.reverse
  | .markup s => return .markup (String.ofList s.toList.reverse)
  | .cell .list id => newIterator (.listBack id (← listItems id).size)
  | .cell .dict id => newIterator (.entries .keys id 0 (← dictEntries id).length true)
  | .view kind id => newIterator (.entries kind id 0 (← dictEntries id).length true)
  | .set xs => newList xs.reverse
  | v =>
    match ← held? v with
    | some xs => newIterator (.given xs.reverse)
    | none => newList (← elements p v).reverse

/-- One of the items of a value that has a length. -/
def someItem (p : Powers) (v : Val) : Render Val := do
  let n ← lengthOf p v
  match ← item? v (.int 0), v with
  | some w, _ => return w
  | none, .cell .dict _ => fail (.fault .noKey)
  | none, _ => if n = 0 && isSequence v then return .undefined else invalid

end WizardLogic.Template
