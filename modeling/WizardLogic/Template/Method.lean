import WizardLogic.Sorting
import WizardLogic.Template.Fields
import WizardLogic.Template.Percent
import WizardLogic.Template.TextMethod

/-!
# Functions that belong to values

The functions of texts, lists, objects, numbers and the other values that a template may call.
Those of lists and objects may change them; all that refer to the same cell see the change.
-/

namespace WizardLogic.Template

open Render

/-! ### Texts -/

/-- A text with one part replaced by another, so many times at most. In markup the new part is
escaped. -/
def replaceIn (isMarkup : Bool) (cs : List Char) (args : List Val) : Render Val := do
  match args with
  | old :: new :: rest =>
    let old ← ofOutcome (charsOf old)
    let new ← if isMarkup then do pure (← escapedText new).toList else ofOutcome (charsOf new)
    let limit ← ofOutcome (limitOf (rest.getD 0 (.int (-1))))
    if 1 < rest.length then invalid
    else return sameKind isMarkup (Text.replace old new limit cs)
  | _ => invalid

/-- The entries of an object that says what to put for characters: its keys are characters or their
numbers. -/
def replacementsOf (v : Val) : Render Val := do
  match v with
  | .cell .dict id =>
    let es ← (← dictEntries id).mapM fun (k, w) =>
      match k.text?, k.int? with
      | some s, _ =>
        match s.toList with
        | [c] => pure (Val.int (c.toNat : Nat), w)
        | _ => invalid
      | none, some n => pure (.int n, w)
      | none, none => invalid
    newDict (Val.insertAll es [])
  | _ => invalid

/-- A text with its characters replaced as a table says. -/
def translated (isMarkup : Bool) (cs : List Char) (table : Val) : Render Val := do
  let parts ← cs.mapM fun c => do
    let n : Int := (c.toNat : Nat)
    match table with
    | .undefined => ofOutcome (replacement (some .undefined) c)
    | .cell .dict id => ofOutcome (replacement (Val.lookup? (.int n) (← dictEntries id)) c)
    | .cell .list id => ofOutcome (replacement (elementAt? (← listItems id).toList n) c)
    | v =>
      match v, v.text? with
      | .tuple xs, _ => ofOutcome (replacement (elementAt? xs n) c)
      | _, some s => ofOutcome (replacement (elementAt? (charVals s) n) c)
      | _, none => invalid
  return sameKind isMarkup parts.flatten

/-- A call of a text's function. -/
def callTextMethod (p : Powers) (receiver : Val) (s name : String) (a : CallArgs) :
    Render Val := do
  let isMarkup := match receiver with
    | .markup _ => true
    | _ => false
  match name, a.positional, a.named with
  | "join", [v], [] =>
    let xs ← elements p v
    if isMarkup then joinMarkup s xs
    else return .ofChars (s.toList.intercalate (← xs.mapM fun x => ofOutcome (charsOf x)))
  | "format", args, named => formatFields p receiver args (.inl named)
  | "format_map", [v], [] => formatFields p receiver [] (.inr v)
  | "replace", args, [] => replaceIn isMarkup s.toList args
  | "translate", [v], [] => translated isMarkup s.toList v
  | "maketrans", [v], [] => replacementsOf v
  | "maketrans", args, [] => do newDict (← ofOutcome (replacementTable args))
  | "encode", _, _ => ofOutcome (encoded s.toList a)
  | "striptags", [], [] =>
    if isMarkup then return .str (← ofOutcome (plainText s)) else invalid
  | "unescape", [], [] =>
    if isMarkup then return .str (← ofOutcome (unescapedText s)) else invalid
  | "escape", [v], [] => if isMarkup then escapeVal v else invalid
  | name, _, _ =>
    match cutText? s.toList name a with
    | some pieces => do newList ((← ofOutcome pieces).map (sameKind isMarkup))
    | none => ofOutcome (callText isMarkup s.toList name a)

/-! ### Numbers -/

/-- The hexadecimal form of a floating-point number. -/
def hexChars (d : Double) : List Char :=
  match d with
  | .nan => "nan".toList
  | .inf neg => (if neg then ['-'] else []) ++ "inf".toList
  | d =>
    let sign := if d.isNegative then ['-'] else []
    let n := d.units.natAbs
    if n = 0 then sign ++ "0x0.0p+0".toList
    else
      let e : Int := (n.log2 : Int) - (Double.unitsInOne.log2 : Int)
      let least : Int := -1022
      let exponent := max e least
      let shift := (exponent + (Double.unitsInOne.log2 : Int)).toNat
      let whole := n / Nat.pow 2 shift
      let fraction := (n % Nat.pow 2 shift) * Nat.pow 2 52 / Nat.pow 2 shift
      sign ++ '0' :: 'x' :: Nat.toDigits 10 whole ++ '.' :: Text.hexDigits 13 fraction ++
        'p' :: (if exponent < 0 then '-' else '+') :: Nat.toDigits 10 exponent.natAbs

/-- The bytes of an integer, the most significant first. -/
def bytesOfInt (n : Int) (length : Nat) (signed : Bool) : Except Failure (List UInt8) :=
  let all : Int := Nat.pow 2 (8 * length)
  let fits : Bool :=
    if signed then decide (-all ≤ 2 * n) && decide (2 * n < all)
    else decide (0 ≤ n) && decide (n < all)
  if !fits then .error (.fault .overflow)
  else
    let m := (n % all).toNat
    .ok ((List.range length).reverse.map fun i => UInt8.ofNat (m / Nat.pow 256 i % 256))

/-- The integer that bytes denote, the most significant first. -/
def intOfBytes (bs : List UInt8) (signed : Bool) : Int :=
  let n : Nat := bs.foldl (fun n b => n * 256 + b.toNat) 0
  if signed && bs.head?.any (128 ≤ ·) then (n : Int) - (Nat.pow 256 bs.length : Nat) else n

/-- Whether the most significant byte comes first, as an argument says. -/
def bigFirst (v : Val) : Except Failure Bool :=
  match v.text? with
  | some "big" => .ok true
  | some "little" => .ok false
  | _ => invalid

/-- A call of a function of an integer. -/
def callInt (n : Int) (name : String) (a : CallArgs) : Render Val := do
  match name, a.positional, a.named with
  | "conjugate", [], [] => return .int n
  | "bit_length", [], [] => return .int (if n = 0 then 0 else n.natAbs.log2 + 1)
  | "bit_count", [], [] =>
    return .int (((Nat.toDigits 2 n.natAbs).filter (· = '1')).length : Nat)
  | "as_integer_ratio", [], [] => return .tuple [.int n, .int 1]
  | "to_bytes", positional, named =>
    let signed := (named.lookup "signed").getD (.bool false)
    let rest := named.filter fun (k, _) => k != "signed"
    let bound ← ofOutcome ((⟨positional, rest⟩ : CallArgs).bind ["length", "byteorder"])
    let length ← ofOutcome (sizeOf (argument bound 0 (.int 1)))
    let big ← ofOutcome (bigFirst (argument bound 1 (.str "big")))
    if length < 0 then invalid
    else
      let bs ← ofOutcome (bytesOfInt n length.toNat (← isTrue signed))
      return .bytes (if big then bs else bs.reverse)
  | "from_bytes", positional, named =>
    let signed := (named.lookup "signed").getD (.bool false)
    let rest := named.filter fun (k, _) => k != "signed"
    let bound ← ofOutcome ((⟨positional, rest⟩ : CallArgs).bind ["bytes", "byteorder"])
    let big ← ofOutcome (bigFirst (argument bound 1 (.str "big")))
    match argument bound 0 .none with
    | .bytes bs => return .int (intOfBytes (if big then bs else bs.reverse) (← isTrue signed))
    | _ => invalid
  | _, _, _ => invalid

/-- A call of a function of a floating-point number. -/
def callDouble (d : Double) (name : String) (a : CallArgs) : Except Failure Val :=
  match name, a.positional, a.named with
  | "conjugate", [], [] => .ok (.float d)
  | "is_integer", [], [] => .ok (.bool d.isIntegral)
  | "hex", [], [] => .ok (.ofChars (hexChars d))
  | "as_integer_ratio", [], [] =>
    if d.isFinite then
      let g := Nat.gcd d.units.natAbs Double.unitsInOne
      .ok (.tuple [.int (d.units / g), .int (Double.unitsInOne / g : Nat)])
    else if d.isNan then invalid else .error (.fault .overflow)
  | _, _, _ => invalid

/-! ### Lists -/

/-- The first place of a value among others. -/
def placeOf? (v : Val) (xs : List Val) : Render (Option Nat) := do
  let image ← look v
  return (← lookAll xs).findIdx? fun x => x.eq image

/-- How often a value is among others. -/
def countOf (v : Val) (xs : List Val) : Render Val := do
  let image ← look v
  return .int (((← lookAll xs).filter fun x => x.eq image).length : Nat)

/-- The position of a value in a list, from a start to a stop. -/
def indexIn (xs : List Val) (args : List Val) : Render Val := do
  let bound (v : Option Val) : Render (Option Int) :=
    match v with
    | some .none => invalid
    | some v => ofOutcome (sliceBound v)
    | none => pure none
  let (a, b) := sliceBounds xs.length (← bound args[1]?) (← bound args[2]?) 1
  match ← placeOf? (args.getD 0 .none) ((xs.drop a.toNat).take (b - a).toNat) with
  | some i => return .int (a.toNat + i : Nat)
  | none => invalid

/-- A call of a function of a tuple or a range. -/
def callSequence (xs : List Val) (name : String) (a : CallArgs) : Render Val :=
  match name, a.positional, a.named with
  | "count", [v], [] => countOf v xs
  | "index", v :: rest, [] => if rest.length ≤ 2 then indexIn xs (v :: rest) else invalid
  | _, _, _ => invalid

/-- Whether an order is to be turned round, as an argument says; only numbers say so. -/
def reverseOf (v : Val) : Except Failure Bool := do return (← boundedInt 32 v) != 0

/-- The elements of a list sorted by a measure. -/
def sortElements (xs : List Val) (key : Val → Render Val) (descending : Bool) :
    Render (List Val) := do
  let measured ← xs.mapM fun x => do return (x, ← look (← key x))
  let measured := if descending then measured.reverse else measured
  let sorted ← Sorting.sortBy (fun a b => ofOutcome (compareImages .lt a.2 b.2)) measured
  return (if descending then sorted.reverse else sorted).map Prod.fst

/-- A call of a function of a list. -/
def callList (p : Powers) (id : Nat) (name : String) (a : CallArgs) : Render Val := do
  let xs := (← listItems id).toList
  let put (xs : List Val) : Render Val := do
    writeCell id (.list xs.toArray)
    return .none
  match name, a.positional, a.named with
  | "append", [v], [] => put (xs ++ [v])
  | "clear", [], [] => put []
  | "copy", [], [] => newList xs
  | "extend", [v], [] => do
    let ys ← elements p v
    put ((← listItems id).toList ++ ys)
  | "insert", [i, v], [] =>
    let i ← ofOutcome (sizeOf i)
    let i := (if i < 0 then max (i + xs.length) 0 else min i xs.length).toNat
    put (xs.take i ++ v :: xs.drop i)
  | "pop", args, [] =>
    let i ← match args with
      | [] => pure (-1)
      | [v] => ofOutcome (sizeOf v)
      | _ => invalid
    match elementAt? xs i with
    | some v =>
      let i := (if i < 0 then i + xs.length else i).toNat
      let _ ← put (xs.take i ++ xs.drop (i + 1))
      return v
    | none => fail (.fault .noPosition)
  | "remove", [v], [] =>
    match ← placeOf? v xs with
    | some i => put (xs.take i ++ xs.drop (i + 1))
    | none => invalid
  | "reverse", [], [] => put xs.reverse
  | "sort", [], named =>
    if named.any fun (n, _) => n != "key" && n != "reverse" then invalid
    else
      let descending ← ofOutcome (reverseOf ((named.lookup "reverse").getD (.bool false)))
      let key (x : Val) : Render Val :=
        match named.lookup "key" with
        | none | some .none => pure x
        | some f => p.call f (.ofList [x])
      put (← sortElements xs key descending)
  | _, _, _ => callSequence xs name a

/-! ### Objects -/

/-- The pairs that an object can be made of: another object, or elements with two parts each. -/
def pairsOf (p : Powers) (v : Val) : Render (List (Val × Val)) := do
  match v with
  | .undefined => invalid
  | .cell .dict id => dictEntries id
  | v =>
    (← elements p v).mapM fun x => do
      match ← elements p x with
      | [k, w] => if k.isHashable then return (k, w) else invalid
      | _ => invalid

/-- The entries that an object is made of: at most one collection of pairs, and named values. -/
def entriesFrom (p : Powers) (a : CallArgs) (es : List (Val × Val)) :
    Render (List (Val × Val)) := do
  let start ← match a.positional with
    | [] => pure []
    | [v] => pairsOf p v
    | _ => invalid
  return Val.insertAll (start ++ a.named.map fun (n, v) => (.str n, v)) es

/-- An object with one value under each of several keys. -/
def fromKeys (p : Powers) (a : CallArgs) : Render Val := do
  match a.positional, a.named with
  | [v], [] => make v .none
  | [v, w], [] => make v w
  | _, _ => invalid
where
  /-- An object with one value under the elements of another one. -/
  make (v w : Val) : Render Val := do
    let ks ← elements p v
    if Val.areHashable ks then newDict (Val.insertAll (ks.map fun k => (k, w)) []) else invalid

/-- A call of a function of an object. -/
def callDict (p : Powers) (id : Nat) (name : String) (a : CallArgs) : Render Val := do
  let es ← dictEntries id
  let put (es : List (Val × Val)) : Render Unit := writeCell id (.dict es)
  let found (k : Val) : Render (Option Val) :=
    if k.isHashable then pure (Val.lookup? k es) else invalid
  match name, a.positional, a.named with
  | "items", [], [] => return .view .items id
  | "keys", [], [] => return .view .keys id
  | "values", [], [] => return .view .values id
  | "copy", [], [] => newDict es
  | "clear", [], [] => do
    put []
    return .none
  | "get", [k], [] => return (← found k).getD .none
  | "get", [k, d], [] => return (← found k).getD d
  | "setdefault", k :: rest, [] =>
    if 1 < rest.length then invalid
    else match ← found k with
      | some v => return v
      | none =>
        let v := rest.getD 0 .none
        put (Val.insertEntry k v es)
        return v
  | "pop", k :: rest, [] =>
    if 1 < rest.length then invalid
    else match ← found k, rest with
      | some v, _ =>
        put (Val.eraseEntry k es)
        return v
      | none, d :: _ => return d
      | none, [] => fail (.fault .noKey)
  | "popitem", [], [] =>
    match es.getLast? with
    | some (k, v) =>
      put es.dropLast
      return .tuple [k, v]
    | none => fail (.fault .noKey)
  | "update", _, _ => do
    put (← entriesFrom p a es)
    return .none
  | "fromkeys", _, _ => fromKeys p a
  | _, _, _ => invalid

/-- Whether a view has no element in common with a collection. -/
def isDisjoint (p : Powers) (v other : Val) : Render Bool := do
  let xs ← lookAll (← elements p v)
  let ys ← elements p other
  if Val.areHashable ys then return (← lookAll ys).all fun y => !Image.holds xs y else invalid

/-! ### The table -/

/-- A call of a function of a value in a cell that is neither a list nor an object. -/
def callState (id : Nat) (name : String) (a : CallArgs) : Render Val := do
  match ← readCell id, name with
  | .cycler items position, "next" =>
    if !a.positional.isEmpty || !a.named.isEmpty then invalid
    else
      writeCell id (.cycler items ((position + 1) % max items.length 1))
      return items.getD position .undefined
  | .cycler items _, "reset" =>
    if !a.positional.isEmpty || !a.named.isEmpty then invalid
    else
      writeCell id (.cycler items 0)
      return .none
  | .loop s, "cycle" =>
    if a.positional.isEmpty || !a.named.isEmpty then invalid
    else return a.positional.getD ((s.count - 1) % a.positional.length) .undefined
  | .loop s, "changed" =>
    if !a.named.isEmpty then invalid
    else
      let same ← match s.lastSeen with
        | some seen => areEqual (.tuple seen) (.tuple a.positional)
        | none => pure false
      if !same then writeCell id (.loop { s with lastSeen := some a.positional })
      return .bool !same
  | _, _ => invalid

/-- **A call of a function that belongs to a value.** -/
def callMethod (p : Powers) (receiver : Val) (name : String) (a : CallArgs) : Render Val := do
  match receiver with
  | .str s | .markup s => callTextMethod p receiver s name a
  | .bytes bs =>
    match name, a.positional, a.named with
    | "decode", _, _ => ofOutcome (decoded bs a)
    | "hex", [], [] => return .ofChars (bs.flatMap fun b => Text.hexDigits 2 b.toNat)
    | _, _, _ => invalid
  | .tuple xs => callSequence xs name a
  | .group k xs => callSequence [k, xs] name a
  | .range start stop step => callSequence (Val.rangeItems start stop step) name a
  | .view _ _ =>
    match a.positional, a.named with
    | [other], [] => return .bool (← isDisjoint p receiver other)
    | _, _ => invalid
  | .global _ => fromKeys p a
  | .cell .list id => callList p id name a
  | .cell .dict id => callDict p id name a
  | .cell _ id => callState id name a
  | .complex z =>
    if a.positional.isEmpty && a.named.isEmpty then return .complex ⟨z.re, z.im.neg⟩ else invalid
  | .float d => ofOutcome (callDouble d name a)
  | v =>
    match v.int? with
    | some n => callInt n name a
    | none => invalid

end WizardLogic.Template
