import WizardLogic.Number.Shortest

/-!
# Values

The values that documents, state and queries are made of: JSON values in which integers are exact
and of any size and floating-point numbers are a kind of their own, and objects keep their keys in
order of insertion.

An object is a list of entries (`Entries`). Its keys are strings in every document, but a key may
also be a number, a boolean or null when a caller chooses one. Two keys are the same key when they
are the same string or the same number, and for that purpose the booleans are one and zero
(`Key.same`). Writing a key that is already present keeps the old key in its place and replaces
only the value (`Entries.insert`).

Three comparisons are told apart: equality as Lean terms, `Value.looseEq`, under which `1`, `1.0`
and `true` are equal at any depth and objects compare without regard to order, and
`Value.strictEq`, which tells the outermost kinds apart first.
-/

namespace WizardLogic

/-- The key of an object's entry. -/
inductive Key
  | null
  | bool (b : Bool)
  | int (n : Int)
  | float (d : Double)
  | str (s : String)
deriving DecidableEq, Inhabited

/-- An ordered association list. -/
abbrev Entries (α : Type) := List (Key × α)

/-- A JSON-like value. -/
inductive Value
  | null
  | bool (b : Bool)
  | int (n : Int)
  | float (d : Double)
  | str (s : String)
  | list (items : List Value)
  | obj (entries : List (Key × Value))
deriving Inhabited

namespace Key

/-- Whether a number equals an integer exactly. -/
def floatIsInt (d : Double) (n : Int) : Bool := d.compareInt? n = some .eq

/-- The integer that a boolean counts as. -/
def ofBool (b : Bool) : Int := if b then 1 else 0

/-- Whether two keys name the same entry. -/
def same : Key → Key → Bool
  | null, null => true
  | str a, str b => a = b
  | bool a, bool b => a = b
  | int a, int b => a = b
  | float a, float b => a.compare? b = some .eq
  | bool a, int b => ofBool a = b
  | int a, bool b => a = ofBool b
  | bool a, float b => floatIsInt b (ofBool a)
  | float a, bool b => floatIsInt a (ofBool b)
  | int a, float b => floatIsInt b a
  | float a, int b => floatIsInt a b
  | _, _ => false

instance : Coe String Key := ⟨Key.str⟩

end Key

namespace Entries

variable {α : Type}

/-- The value under a key. -/
def get? (k : Key) : Entries α → Option α
  | [] => none
  | (k', v) :: rest => if k.same k' then some v else get? k rest

/-- Whether a key is present. -/
def contains (k : Key) (es : Entries α) : Bool := (get? k es).isSome

/-- Writes a value under a key: in the place of the entry that has the key, else at the end. -/
def insert (k : Key) (v : α) : Entries α → Entries α
  | [] => [(k, v)]
  | (k', v') :: rest => if k.same k' then (k', v) :: rest else (k', v') :: insert k v rest

/-- Removes the entry with a key. -/
def erase (k : Key) : Entries α → Entries α
  | [] => []
  | (k', v') :: rest => if k.same k' then rest else (k', v') :: erase k rest

/-- Writes all entries of the second list into the first, in order. -/
def merge (es new : Entries α) : Entries α :=
  new.foldl (fun acc (k, v) => insert k v acc) es

/-- The object that results from writing the entries in order; later values win. -/
def ofList (es : List (Key × α)) : Entries α := merge [] es

/-- The keys in order. -/
def keys (es : Entries α) : List Key := es.map Prod.fst

/-- The values in order. -/
def values (es : Entries α) : List α := es.map Prod.snd

end Entries

namespace Value

/-- The value that a key is. -/
def ofKey : Key → Value
  | .null => .null
  | .bool b => .bool b
  | .int n => .int n
  | .float d => .float d
  | .str s => .str s

/-- The key that a value can be; lists and objects cannot. -/
def toKey? : Value → Option Key
  | null => some .null
  | bool b => some (.bool b)
  | int n => some (.int n)
  | float d => some (.float d)
  | str s => some (.str s)
  | _ => none

/-- The empty object. -/
def empty : Value := obj []

/-- Whether a value is null. -/
def isNull : Value → Bool
  | null => true
  | _ => false

/-- The value under a key of an object; none for other values. -/
def get? (v : Value) (k : Key) : Option Value :=
  match v with
  | obj es => Entries.get? k es
  | _ => none

/-- The object's value under a key, null when it is absent. -/
def field (v : Value) (k : String) : Value := (v.get? (.str k)).getD null

/-- The value of a boolean as an integer, for comparing. -/
def ofBoolInt (b : Bool) : Int := if b then 1 else 0

mutual

/-- Equality in which booleans count as one and zero, integers and floating-point numbers compare
by value, and the order of an object's entries does not matter. -/
def looseEq : Value → Value → Bool
  | null, null => true
  | bool a, bool b => a = b
  | int a, int b => a = b
  | float a, float b => a.compare? b = some .eq
  | bool a, int b => ofBoolInt a = b
  | int a, bool b => a = ofBoolInt b
  | bool a, float b => b.compareInt? (ofBoolInt a) = some .eq
  | float a, bool b => a.compareInt? (ofBoolInt b) = some .eq
  | int a, float b => b.compareInt? a = some .eq
  | float a, int b => a.compareInt? b = some .eq
  | str a, str b => a = b
  | list a, list b => looseEqList a b
  | obj a, obj b => a.length = b.length && looseEqEntries a b
  | _, _ => false

/-- Element by element. -/
def looseEqList : List Value → List Value → Bool
  | [], [] => true
  | a :: as, b :: bs => looseEq a b && looseEqList as bs
  | _, _ => false

/-- Every entry of the first object is in the second. -/
def looseEqEntries : List (Key × Value) → List (Key × Value) → Bool
  | [], _ => true
  | (k, v) :: rest, other =>
    (match Entries.get? k other with
      | some w => looseEq v w
      | none => false) && looseEqEntries rest other

end

/-- Equality without coercion between kinds at the outermost level: a boolean equals only a
boolean, integers and floating-point numbers compare by value, and all else needs the same kind. -/
def strictEq : Value → Value → Bool
  | bool a, bool b => a = b
  | bool _, _ => false
  | _, bool _ => false
  | a, b => looseEq a b

/-- Whether a value counts as true where empty collections, zero, the empty text and null are
false. -/
def isTrue : Value → Bool
  | null => false
  | bool b => b
  | int n => n != 0
  | float d => !d.isZero
  | str s => !s.isEmpty
  | list items => !items.isEmpty
  | obj es => !es.isEmpty

end Value

end WizardLogic
