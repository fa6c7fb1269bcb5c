import WizardLogic.Json.Printer
import WizardLogic.Template.Image
import WizardLogic.Template.Store

/-!
# Looking at values

`look` is the image of a value as the store is now: the references in it are followed, each at most
once on every way down. On it rest the truth of a value, comparisons, and the texts that a value
has: its plain text (`textOf`), its literal notation (`literalOf`) and its JSON text (`jsonText`).
-/

namespace WizardLogic.Template

open Render

/-- What an image takes of the store: the images of references. -/
structure Followed where
  cell : CellKind → Nat → Image
  view : ViewKind → Nat → Image

mutual

/-- The image of a value, given those of the references in it. -/
def imageWith (f : Followed) : Val → Image
  | .undefined => .undefined
  | .none => .none
  | .bool b => .bool b
  | .int n => .int n
  | .float d => .float d
  | .complex z => .complex z
  | .str s => .str s
  | .markup s => .markup s
  | .bytes bs => .bytes bs
  | .tuple xs => .tuple false (imagesWith f xs)
  | .group k xs => .tuple true [imageWith f k, imageWith f xs]
  | .set xs => .set (imagesWith f xs)
  | .view kind id => f.view kind id
  | .range a b c => .range a b c
  | .global g => .other (.global g) (Image.globalText g)
  | .method v name => .other (.method v name) s!"<function {name}>"
  | .cell kind id => f.cell kind id

/-- The images of several values. -/
def imagesWith (f : Followed) : List Val → List Image
  | [] => []
  | v :: vs => imageWith f v :: imagesWith f vs

end

/-- The number of elements that are known to be left in an iterator. -/
def leftIn (s : Store) : Stream → Nat
  | .given xs => xs.length
  | .list id i =>
    match s.cells.getD id default with
    | .list xs => xs.size - i
    | _ => 0
  | _ => 0

/-- How a value of a cell is shown that is only told apart from others. -/
def shownCell (s : Store) (kind : CellKind) (id : Nat) : String :=
  match s.cells.getD id default with
  | .loop l =>
    let left := match s.cells.getD l.source default with
      | .iterator stream => leftIn s stream
      | _ => 0
    let length := l.length.getD (l.count + left + (if l.next.isSome then 1 else 0))
    s!"<LoopContext {l.count}/{length}>"
  | .definition d =>
    match d.name with
    | some n => "<Macro " ++ String.ofList (Text.quoted n) ++ ">"
    | none => "<Macro anonymous>"
  | .blocks _ => "<TemplateReference None>"
  | .block n _ => s!"<BlockReference {n}>"
  | .cycler _ _ => "<Cycler>"
  | .joiner _ _ => "<Joiner>"
  | _ => match kind with
    | .iterator => "<generator>"
    | _ => ""

/-- The images of entries, given those of the references in them. -/
def entriesWith (f : Followed) (es : List (Val × Val)) : List (Image × Image) :=
  es.map fun (k, v) => (imageWith f k, imageWith f v)

/-- The image of a value in a store. `fuel` bounds how many references are followed one inside
another; `path` holds those that are being followed. -/
def imageOf (s : Store) : Nat → List Nat → Val → Image
  | 0, _, v => imageWith ⟨fun _ _ => .again false, fun _ _ => .again false⟩ v
  | fuel + 1, path, v =>
    let inside (id : Nat) : Followed :=
      let image (v : Val) : Image := imageOf s fuel (id :: path) v
      ⟨fun kind id => image (.cell kind id), fun kind id => image (.view kind id)⟩
    let cell (kind : CellKind) (id : Nat) : Image :=
      match s.cells.getD id default, kind with
      | .list xs, .list =>
        if path.contains id then .again false else .list (imagesWith (inside id) xs.toList)
      | .dict es, .dict =>
        if path.contains id then .again true else .dict (entriesWith (inside id) es)
      | .namespace es, .namespace =>
        .space id
          (if path.contains id then .again true else .dict (entriesWith (inside id) es))
      | _, kind => .other (.cell kind id) (shownCell s kind id)
    let view (kind : ViewKind) (id : Nat) : Image :=
      match s.cells.getD id default with
      | .dict es =>
        if path.contains id then .again false else .view kind (entriesWith (inside id) es)
      | _ => .again false
    imageWith ⟨cell, view⟩ v

/-- **The image of a value.** -/
def look (v : Val) : Render Image := fun s => .ok (imageOf s (s.cells.size + 1) [] v, s)

/-- The images of several values. -/
def lookAll (vs : List Val) : Render (List Image) := fun s =>
  .ok (vs.map (imageOf s (s.cells.size + 1) []), s)

/-! ### Truth and comparisons -/

/-- Whether a value counts as true. -/
def isTrue (v : Val) : Render Bool :=
  match v with
  | .undefined | .none => pure false
  | .bool b => pure b
  | .int n => pure (n != 0)
  | .float d => pure !d.isZero
  | .complex z => pure !z.isZero
  | .str s | .markup s => pure !s.isEmpty
  | .bytes bs => pure !bs.isEmpty
  | .tuple xs | .set xs => pure !xs.isEmpty
  | .range a b c => pure (Val.rangeLength a b c != 0)
  | .view _ id => do return !(← dictEntries id).isEmpty
  | .cell .list id => do return !(← listItems id).isEmpty
  | .cell .dict id => do return !(← dictEntries id).isEmpty
  | _ => pure true

/-- Whether two values are equal. -/
def areEqual (a b : Val) : Render Bool := do return (← look a).eq (← look b)

/-- A comparison of order of two images; those without order are invalid. -/
def compareImages (op : CompareOp) (a b : Image) : Except Failure Bool :=
  match a.ordered? op b with
  | some r => .ok r
  | none => invalid

/-- A comparison of order of two values; those without order are invalid. -/
def compareOrder (op : CompareOp) (a b : Val) : Render Bool := do
  ofOutcome (compareImages op (← look a) (← look b))

/-! ### Texts -/

/-- The text of an image, if all its integers have one. -/
def Image.textOf (v : Image) : Except Failure String := if v.hasText then .ok v.text else invalid

/-- The literal notation of an image, if all its integers have a text. -/
def Image.literalOf (v : Image) : Except Failure (List Char) :=
  if v.hasText then .ok v.literal else invalid

/-- The text of a value. -/
def textOf (v : Val) : Render String :=
  match v with
  | .str s | .markup s => pure s
  | v => do ofOutcome (← look v).textOf

/-- The literal notation of a value. -/
def literalOf (v : Val) : Render (List Char) := do ofOutcome (← look v).literalOf

/-- The JSON text of a value in a style; what JSON has no form for is written as its text. -/
def jsonText (style : Json.Style) (v : Val) : Render String := do
  let image ← look v
  if !image.hasText then invalid
  else match image.toValue? with
    | some w => return Json.print style w
    | none => invalid

end WizardLogic.Template
