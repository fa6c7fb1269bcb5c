import WizardLogic.Template.Ast
import WizardLogic.Value

/-!
# Values in templates

While a template is rendered, values are richer than JSON values: a name may be **undefined**,
text may be marked as safe markup, there are tuples, ranges and views of objects, and some values
can change. A value that can change, or that is told apart from others like it, is a reference to a
cell of the rendering's store (`Val.cell`); lists and objects are such values. What a value is at a
moment, references followed, is its `Image`.

Undefined values are lenient: members and items of them, and arithmetic with them, are undefined
again, comparisons of order with them are false, they are empty and count as false.
-/

namespace WizardLogic.Template

/-- Which part of an object a view shows. -/
inductive ViewKind
  | keys | values | items
deriving DecidableEq, Repr

/-- The functions that every template can call. -/
inductive Global
  | range | dict | namespace | cycler | joiner | lipsum
deriving DecidableEq, Repr

/-- The kinds of value that a cell can hold. -/
inductive CellKind
  | list | dict | iterator | namespace | cycler | joiner | loop | definition
  /-- The named sections of the template. -/
  | blocks
  /-- One named section. -/
  | block
deriving DecidableEq, Repr

/-- A value in a template. -/
inductive Val
  | undefined
  | none
  | bool (b : Bool)
  | int (n : Int)
  | float (d : Double)
  | complex (z : Complex)
  | str (s : String)
  /-- Text that needs no escaping. -/
  | markup (s : String)
  | bytes (bs : List UInt8)
  | tuple (items : List Val)
  /-- A key with the list of the items that have it. -/
  | group (key items : Val)
  | set (items : List Val)
  /-- A view of the object in a cell. -/
  | view (kind : ViewKind) (id : Nat)
  | range (start stop step : Int)
  | global (g : Global)
  /-- A function that belongs to a value. -/
  | method (receiver : Val) (name : String)
  | cell (kind : CellKind) (id : Nat)
deriving Inhabited

namespace Val

/-! ### Kinds of value -/

/-- A text value. -/
def ofChars (cs : List Char) : Val := str (String.ofList cs)

/-- The text of a value that is text. -/
def text? : Val → Option String
  | str s => some s
  | markup s => some s
  | _ => Option.none

/-- The number of a value that is a real one; booleans count as one and zero. -/
def number? : Val → Option Number
  | bool b => some (.int (if b then 1 else 0))
  | int n => some (.int n)
  | float d => some (.float d)
  | _ => Option.none

/-- The value of a number. -/
def ofNumber : Number → Val
  | .int n => int n
  | .float d => float d

/-- The integer of a value that is one, booleans included. -/
def int? : Val → Option Int
  | bool b => some (if b then 1 else 0)
  | int n => some n
  | _ => Option.none

/-- Whether a value is markup, or counts as it since it prints as nothing. -/
def isMarkup : Val → Bool
  | markup _ => true
  | undefined => true
  | _ => false

/-- Whether a value is undefined. -/
def isUndefined : Val → Bool
  | undefined => true
  | _ => false

/-- Whether a value is none. -/
def isNone : Val → Bool
  | none => true
  | _ => false

/-! ### Ranges -/

/-- The number of elements of a range. -/
def rangeLength (start stop step : Int) : Nat :=
  if 0 < step then (Int.fdiv (stop - start + step - 1) step).toNat
  else (Int.fdiv (start - stop - step - 1) (-step)).toNat

/-- The elements of a range. -/
def rangeItems (start stop step : Int) : List Val :=
  (List.range (rangeLength start stop step)).map fun (i : Nat) => int (start + step * (i : Int))

/-! ### Keys -/

mutual

/-- Whether a value may be a key: collections that can change may not. -/
def isHashable : Val → Bool
  | cell .list _ => false
  | cell .dict _ => false
  | set _ => false
  | view .keys _ => false
  | view .items _ => false
  | tuple xs => areHashable xs
  | group k xs => isHashable k && isHashable xs
  | _ => true

/-- Whether all values may be keys. -/
def areHashable : List Val → Bool
  | [] => true
  | x :: xs => isHashable x && areHashable xs

end

/-- Whether two ranges have the same elements. -/
def sameRange (a b c d e f : Int) : Bool :=
  let n := rangeLength a b c
  n = rangeLength d e f && (n = 0 || (a = d && (n = 1 || c = f)))

mutual

/-- Whether two values are the same key: numbers and booleans by number, texts by content, tuples
item by item, references if they are to one cell. -/
def sameKey : Val → Val → Bool
  | undefined, undefined => true
  | none, none => true
  | bool a, bool b => a = b
  | bool a, int b => (if a then 1 else 0) = b
  | int a, bool b => a = (if b then 1 else 0)
  | bool a, float b => b.compareInt? (if a then 1 else 0) = some .eq
  | float a, bool b => a.compareInt? (if b then 1 else 0) = some .eq
  | int a, int b => a = b
  | int a, float b => b.compareInt? a = some .eq
  | float a, int b => a.compareInt? b = some .eq
  | float a, float b => a.compare? b = some .eq
  | complex a, complex b => a.re.compare? b.re = some .eq && a.im.compare? b.im = some .eq
  | str a, str b => a = b
  | str a, markup b => a = b
  | markup a, str b => a = b
  | markup a, markup b => a = b
  | bytes a, bytes b => a = b
  | tuple a, tuple b => sameKeys a b
  | group k a, group l b => sameKey k l && sameKey a b
  | range a b c, range d e f => sameRange a b c d e f
  | global a, global b => a = b
  | method a n, method b m => n = m && sameKey a b
  | view _ a, view _ b => a = b
  | cell _ a, cell _ b => a = b
  | _, _ => false

/-- Whether two lists of values are the same keys. -/
def sameKeys : List Val → List Val → Bool
  | [], [] => true
  | a :: as, b :: bs => sameKey a b && sameKeys as bs
  | _, _ => false

end

/-- Whether a list holds a key. -/
def holdsKey (k : Val) (ks : List Val) : Bool := ks.any (sameKey k)

/-- The value under a key. -/
def lookup? (k : Val) (es : List (Val × Val)) : Option Val :=
  (es.find? fun e => sameKey k e.1).map Prod.snd

/-- The entries with a value written under a key; a key that is present keeps its place. -/
def insertEntry (k v : Val) : List (Val × Val) → List (Val × Val)
  | [] => [(k, v)]
  | (k', v') :: rest => if sameKey k k' then (k', v) :: rest else (k', v') :: insertEntry k v rest

/-- The entries without a key. -/
def eraseEntry (k : Val) (es : List (Val × Val)) : List (Val × Val) :=
  es.filter fun e => !sameKey k e.1

/-- The entries that result from writing pairs in order. -/
def insertAll (pairs es : List (Val × Val)) : List (Val × Val) :=
  pairs.foldl (fun acc (k, v) => insertEntry k v acc) es

/-- The elements that a view of entries shows. -/
def viewItems (kind : ViewKind) (es : List (Val × Val)) : List Val :=
  match kind with
  | .keys => es.map Prod.fst
  | .values => es.map Prod.snd
  | .items => es.map fun (k, v) => tuple [k, v]

end Val

end WizardLogic.Template
