import WizardLogic.Display
import WizardLogic.Number.Reading
import WizardLogic.Template.Val

/-!
# What a value is at a moment

The image of a value is the value with its references followed: a tree that no later change
touches. Comparing values, showing them and writing them as JSON are done on images.

A collection that is inside itself has no tree; there its image ends (`Image.again`).
-/

namespace WizardLogic.Template

/-- A value with its references followed. -/
inductive Image
  | undefined
  | none
  | bool (b : Bool)
  | int (n : Int)
  | float (d : Double)
  | complex (z : Complex)
  | str (s : String)
  | markup (s : String)
  | bytes (bs : List UInt8)
  | list (items : List Image)
  /-- A tuple; it may be a key with the items that have it. -/
  | tuple (grouped : Bool) (items : List Image)
  | set (items : List Image)
  | dict (entries : List (Image × Image))
  | view (kind : ViewKind) (entries : List (Image × Image))
  | range (start stop step : Int)
  /-- A namespace object by its cell, with an object of its members. -/
  | space (id : Nat) (members : Image)
  /-- A value that is only told apart from others, and how it is shown. -/
  | other (v : Val) (shown : String)
  /-- A list, or an object, inside itself. -/
  | again (inObject : Bool)
deriving Inhabited

namespace Image

/-- The text of an image that is text. -/
def text? : Image → Option String
  | str s => some s
  | markup s => some s
  | _ => Option.none

/-- The number of an image that is a real one; booleans count as one and zero. -/
def number? : Image → Option Number
  | bool b => some (.int (if b then 1 else 0))
  | int n => some (.int n)
  | float d => some (.float d)
  | _ => Option.none

/-- The integer of an image that is one, booleans included. -/
def int? : Image → Option Int
  | bool b => some (if b then 1 else 0)
  | int n => some n
  | _ => Option.none

/-- Whether an image is markup, or counts as it since it prints as nothing. -/
def isMarkup : Image → Bool
  | markup _ => true
  | undefined => true
  | _ => false

/-! ### Equality -/

/-- The elements that an image has if it counts as a set. -/
def members? : Image → Option (List Image)
  | set xs => some xs
  | view .keys es => some (es.map Prod.fst)
  | view .items es => some (es.map fun e => tuple false [e.1, e.2])
  | _ => Option.none

/-- Whether a complex number equals a real one. -/
def complexIs (z : Complex) (n : Number) : Bool :=
  z.im.isZero && (Number.float z.re).compare? n = some .eq

mutual

/-- Equality by value: numbers and booleans by number, texts by content, collections of one kind by
their elements, objects and sets without regard to order. -/
def eq : Image → Image → Bool
  | undefined, undefined => true
  | none, none => true
  | bool a, bool b => a = b
  | bool a, int b => (if a then 1 else 0) = b
  | int a, bool b => a = (if b then 1 else 0)
  | bool a, float b => b.compareInt? (if a then 1 else 0) = some .eq
  | float a, bool b => a.compareInt? (if b then 1 else 0) = some .eq
  | int a, int b => a = b
  | int a, float b => b.compareInt? a = some .eq
  | float a, int b => a.compareInt? b = some .eq
  | float a, float b => a.compare? b = some .eq
  | complex a, complex b => a.re.compare? b.re = some .eq && a.im.compare? b.im = some .eq
  | complex a, b => (b.number?.map (complexIs a)).getD false
  | a, complex b => (a.number?.map (complexIs b)).getD false
  | str a, str b => a = b
  | str a, markup b => a = b
  | markup a, str b => a = b
  | markup a, markup b => a = b
  | bytes a, bytes b => a = b
  | list a, list b => eqItems a b
  | tuple _ a, tuple _ b => eqItems a b
  | dict a, dict b => a.length = b.length && eqEntries a b
  | set a, set b => a.length = b.length && allIn a b
  | set a, view .keys b => a.length = b.length && allIn a (b.map Prod.fst)
  | view .keys a, set b => a.length = b.length && keysIn a b
  | view .keys a, view .keys b => a.length = b.length && keysIn a (b.map Prod.fst)
  | view .items a, view .items b => a.length = b.length && eqEntries a b
  | view .keys a, view .items b => a.length = b.length && a.isEmpty
  | view .items a, view .keys b => a.length = b.length && a.isEmpty
  | range a b c, range d e f => Val.sameRange a b c d e f
  | space a _, space b _ => a = b
  | other a _, other b _ => Val.sameKey a b
  | _, _ => false

/-- Item by item. -/
def eqItems : List Image → List Image → Bool
  | [], [] => true
  | a :: as, b :: bs => eq a b && eqItems as bs
  | _, _ => false

/-- Every entry of the first object is in the second. -/
def eqEntries : List (Image × Image) → List (Image × Image) → Bool
  | [], _ => true
  | (k, v) :: rest, others =>
    (match others.find? fun e => eq k e.1 with
      | some e => eq v e.2
      | Option.none => false) && eqEntries rest others

/-- Every item of the first list is in the second. -/
def allIn : List Image → List Image → Bool
  | [], _ => true
  | x :: xs, ys => ys.any (fun y => eq x y) && allIn xs ys

/-- Every key of some entries is in a list. -/
def keysIn : List (Image × Image) → List Image → Bool
  | [], _ => true
  | (k, _) :: rest, ys => ys.any (fun y => eq k y) && keysIn rest ys

end

/-- Whether one of several images equals an image. -/
def holds (xs : List Image) (v : Image) : Bool := xs.any fun x => x.eq v

/-! ### Order -/

/-- Whether an order fits a comparison of order. -/
def fits (op : CompareOp) (o : Ordering) : Bool :=
  match op with
  | .lt => o = .lt
  | .le => o != .gt
  | .gt => o = .gt
  | .ge => o != .lt
  | _ => false

/-- Whether a set compares with another as wanted: a lesser set is a part of the greater. -/
def orderedSets (op : CompareOp) (a b : List Image) : Bool :=
  match op with
  | .lt => a.length < b.length && allIn a b
  | .le => a.length ≤ b.length && allIn a b
  | .gt => b.length < a.length && allIn b a
  | .ge => b.length ≤ a.length && allIn b a
  | _ => false

/-- The order of two lists of bytes. -/
def compareBytes : List UInt8 → List UInt8 → Ordering
  | [], [] => .eq
  | [], _ :: _ => .lt
  | _ :: _, [] => .gt
  | a :: as, b :: bs => if a = b then compareBytes as bs else compare a b

/-- A comparison of two images that are no sequences. -/
def orderedAtoms? (op : CompareOp) (a b : Image) : Option Bool :=
  match a.number?, b.number? with
  | some m, some n =>
    some (match m.compare? n with
      | some o => fits op o
      | Option.none => false)
  | _, _ =>
    match a.text?, b.text? with
    | some s, some t => some (fits op (compare s t))
    | _, _ =>
      match a.members?, b.members? with
      | some xs, some ys => some (orderedSets op xs ys)
      | _, _ => Option.none

mutual

/-- A comparison of order; none if the images have none. Sequences compare at the first place where
they differ, else by length; sets by inclusion. -/
def ordered? (op : CompareOp) : Image → Image → Option Bool
  | undefined, _ => some false
  | _, undefined => some false
  | list a, list b => orderedItems? op a b
  | tuple _ a, tuple _ b => orderedItems? op a b
  | bytes a, bytes b => some (fits op (compareBytes a b))
  | a, b => orderedAtoms? op a b

/-- A comparison of the order of two lists of items. -/
def orderedItems? (op : CompareOp) : List Image → List Image → Option Bool
  | [], [] => some (fits op .eq)
  | [], _ :: _ => some (fits op .lt)
  | _ :: _, [] => some (fits op .gt)
  | a :: as, b :: bs => if eq a b then orderedItems? op as bs else ordered? op a b

end

/-! ### Literal notation -/

/-- The notation of a global function. -/
def globalText : Global → String
  | .range => "<function range>"
  | .dict => "<class 'dict'>"
  | .namespace => "<class 'jinja2.utils.Namespace'>"
  | .cycler => "<class 'jinja2.utils.Cycler'>"
  | .joiner => "<class 'jinja2.utils.Joiner'>"
  | .lipsum => "<function lipsum>"

/-- The word that starts the notation of a view. -/
def viewName : ViewKind → List Char
  | .keys => "dict_keys([".toList
  | .values => "dict_values([".toList
  | .items => "dict_items([".toList

/-- What stands between two items. -/
def commaSep : List Char := [',', ' ']

/-- A byte inside quotes. -/
def showByte (quote : Char) (b : UInt8) : List Char :=
  let c := Char.ofNat b.toNat
  if c = quote || c = '\\' then ['\\', c]
  else if c = '\n' then ['\\', 'n']
  else if c = '\r' then ['\\', 'r']
  else if c = '\t' then ['\\', 't']
  else if 32 ≤ b && b < 127 then [c]
  else '\\' :: 'x' :: Text.hexDigits 2 b.toNat

/-- The notation of bytes. -/
def bytesLiteral (bs : List UInt8) : List Char :=
  let q := Text.quoteFor (bs.map fun b => Char.ofNat b.toNat)
  'b' :: q :: (bs.flatMap (showByte q) ++ [q])

mutual

/-- The literal notation of an image. -/
def literal : Image → List Char
  | undefined => "Undefined".toList
  | none => "None".toList
  | bool b => boolLiteral b
  | int n => Json.intChars n
  | float d => d.chars
  | complex z => z.chars
  | str s => Text.quoted s
  | markup s => "Markup(".toList ++ Text.quoted s ++ [')']
  | bytes bs => bytesLiteral bs
  | list xs => '[' :: (literalItems true xs ++ [']'])
  | tuple _ [] => ['(', ')']
  | tuple _ [x] => '(' :: (literal x ++ [',', ')'])
  | tuple _ (x :: y :: xs) => '(' :: (literal x ++ literalItems false (y :: xs) ++ [')'])
  | set [] => "set()".toList
  | set (x :: xs) => '{' :: (literal x ++ literalItems false xs ++ ['}'])
  | dict es => '{' :: (literalEntries true es ++ ['}'])
  | view kind es =>
    viewName kind ++ (match kind with
      | .keys => literalKeys true es
      | .values => literalValues true es
      | .items => literalPairs true es) ++ [']', ')']
  | range start stop step =>
    "range(".toList ++ Json.intChars start ++ commaSep ++ Json.intChars stop ++
      (if step = 1 then [] else commaSep ++ Json.intChars step) ++ [')']
  | space _ members => "<Namespace ".toList ++ literal members ++ ['>']
  | other _ shown => shown.toList
  | again false => "[...]".toList
  | again true => '{' :: "...".toList ++ ['}']

/-- The items of a list, with a separator before each that is not the first. -/
def literalItems (first : Bool) : List Image → List Char
  | [] => []
  | x :: xs => (if first then [] else commaSep) ++ literal x ++ literalItems false xs

/-- The entries of an object. -/
def literalEntries (first : Bool) : List (Image × Image) → List Char
  | [] => []
  | (k, v) :: es =>
    (if first then [] else commaSep) ++ literal k ++ [':', ' '] ++ literal v ++
      literalEntries false es

/-- The keys of an object. -/
def literalKeys (first : Bool) : List (Image × Image) → List Char
  | [] => []
  | (k, _) :: es => (if first then [] else commaSep) ++ literal k ++ literalKeys false es

/-- The values of an object. -/
def literalValues (first : Bool) : List (Image × Image) → List Char
  | [] => []
  | (_, v) :: es => (if first then [] else commaSep) ++ literal v ++ literalValues false es

/-- The entries of an object as pairs. -/
def literalPairs (first : Bool) : List (Image × Image) → List Char
  | [] => []
  | (k, v) :: es =>
    (if first then [] else commaSep) ++ '(' :: (literal k ++ commaSep ++ literal v ++ [')']) ++
      literalPairs false es

end

/-- The text of an image: a text is itself, an undefined value is empty, and all else is shown in
literal notation. -/
def text : Image → String
  | str s => s
  | markup s => s
  | undefined => ""
  | v => String.ofList v.literal

/-- The least integer without a text form. -/
def intTextLimit : Nat := Nat.pow 10 Number.maxIntDigits

mutual

/-- Whether all integers in an image are short enough to have a text form. -/
def hasText : Image → Bool
  | int n => n.natAbs < intTextLimit
  | list xs => haveText xs
  | tuple _ xs => haveText xs
  | set xs => haveText xs
  | dict es => entriesHaveText es
  | view _ es => entriesHaveText es
  | space _ members => hasText members
  | _ => true

/-- Whether all of several images have a text form. -/
def haveText : List Image → Bool
  | [] => true
  | x :: xs => hasText x && haveText xs

/-- Whether all keys and values of entries have a text form. -/
def entriesHaveText : List (Image × Image) → Bool
  | [] => true
  | (k, v) :: es => hasText k && hasText v && entriesHaveText es

end

/-! ### JSON -/

/-- The JSON key that an image can be; only texts, numbers, booleans and none can. -/
def toKey? : Image → Option Key
  | none => some .null
  | bool b => some (.bool b)
  | int n => some (.int n)
  | float d => some (.float d)
  | str s => some (.str s)
  | markup s => some (.str s)
  | _ => Option.none

mutual

/-- The JSON value that an image is written as: tuples are lists, and what JSON has no form for is
written as its text. None if an object has a key that JSON cannot have, or a collection is inside
itself. -/
def toValue? : Image → Option Value
  | undefined => some (.str "")
  | none => some .null
  | bool b => some (.bool b)
  | int n => some (.int n)
  | float d => some (.float d)
  | str s => some (.str s)
  | markup s => some (.str s)
  | list xs => (toValues? xs).map .list
  | tuple _ xs => (toValues? xs).map .list
  | dict es => (toEntries? es).map .obj
  | again _ => Option.none
  | v => some (.str v.text)

/-- The JSON values of several images. -/
def toValues? : List Image → Option (List Value)
  | [] => some []
  | x :: xs =>
    match toValue? x, toValues? xs with
    | some v, some vs => some (v :: vs)
    | _, _ => Option.none

/-- The JSON entries of the entries of an object. -/
def toEntries? : List (Image × Image) → Option (List (Key × Value))
  | [] => some []
  | (k, v) :: es =>
    match k.toKey?, toValue? v, toEntries? es with
    | some k, some v, some es => some ((k, v) :: es)
    | _, _, _ => Option.none

end

end Image

end WizardLogic.Template
