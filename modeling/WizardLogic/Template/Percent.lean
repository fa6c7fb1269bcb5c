import WizardLogic.Template.Access
import WizardLogic.Template.Markup
import WizardLogic.Template.Spec

/-!
# Percent patterns

In a pattern a percent sign starts a conversion: flags, a width, a precision and a letter. The
values come from a tuple one by one, or are the items of a collection that the conversions name;
any other value is the only one. All values of a tuple have to be used.

Where the pattern is markup the values are escaped: their texts and notations when those are asked
for, while numbers are read off what the value is.
-/

namespace WizardLogic.Template

open Render

/-- A conversion: flags, width and precision. -/
structure Conversion where
  left : Bool := false
  plus : Bool := false
  blank : Bool := false
  alternate : Bool := false
  zero : Bool := false
  width : Nat := 0
  precision : Option Nat := none

/-- The values that a percent pattern takes from: those left of a tuple, or one value, which may be
asked for its items. -/
structure PercentArgs where
  /-- Whether the pattern is markup. -/
  escapes : Bool
  rest : List Val
  /-- The value whose items may be asked for by name. -/
  whole : Option Val

/-- The sign that stands before a number. -/
def Conversion.signChars (c : Conversion) (negative : Bool) : List Char :=
  if negative then ['-'] else if c.plus then ['+'] else if c.blank then [' '] else []

/-- A number's sign, mark and digits in the width of a conversion. -/
def Conversion.placeNumber (c : Conversion) (sign mark digits : List Char) (finite : Bool) :
    List Char :=
  let n := sign.length + mark.length
  if c.left then padRight c.width ' ' (sign ++ mark ++ digits)
  else if c.zero && finite then sign ++ mark ++ padLeft (c.width - n) '0' digits
  else padLeft c.width ' ' (sign ++ mark ++ digits)

/-- A text in the width and precision of a conversion. -/
def Conversion.placeText (c : Conversion) (cs : List Char) : List Char :=
  let cs := match c.precision with
    | some p => cs.take p
    | none => cs
  if c.left then padRight c.width ' ' cs else padLeft c.width ' ' cs

/-- The integer that a floating-point number has before its point. -/
def wholePart (d : Double) : Except Failure Int :=
  match d.toInt? with
  | some n => .ok n
  | none => if d.isNan then invalid else .error (.fault .overflow)

/-- The integer that a value is read as: a text that denotes one, or a number up to its point. -/
def integerFrom (v : Val) : Except Failure Int :=
  match v with
  | .str s | .markup s =>
    match Number.readInt? s.toList with
    | some n => .ok n
    | none => invalid
  | .bytes bs =>
    match Number.readInt? (bs.map fun b => Char.ofNat b.toNat) with
    | some n => .ok n
    | none => invalid
  | .float d => wholePart d
  | v =>
    match v.int? with
    | some n => .ok n
    | none => invalid

/-- The floating-point number that a value is read as: a number, or a text that denotes one. -/
def doubleFrom (v : Val) : Except Failure Double :=
  let read (cs : List Char) : Except Failure Double :=
    match Number.readDouble? cs with
    | some d => .ok d
    | none => invalid
  match v with
  | .str s | .markup s => read s.toList
  | .bytes bs => read (bs.map fun b => Char.ofNat b.toNat)
  | v => doubleOf v

/-- The integer that a decimal conversion shows. -/
def decimalOperand (escapes : Bool) (v : Val) : Except Failure Int :=
  match v with
  | .float d => wholePart d
  | v =>
    if escapes then integerFrom v
    else match v.int? with
      | some n => .ok n
      | none => invalid

/-- The integer that a conversion to another base shows. -/
def integerOperand (escapes : Bool) (v : Val) : Except Failure Int :=
  match escapes, v.int? with
  | false, some n => .ok n
  | _, _ => invalid

/-- A value in a conversion. -/
def convert (escapes : Bool) (c : Conversion) (letter : Char) (v : Val) : Render (List Char) := do
  let literal : Render (List Char) := do
    let cs ← literalOf v
    return if escapes then escapeChars cs else cs
  let integer (base : Nat) (mark : List Char) (n : Int) : List Char :=
    let ds := Nat.toDigits base n.natAbs
    let ds := if letter = 'X' then capitals ds else ds
    let ds := padLeft (c.precision.getD 0) '0' ds
    c.placeNumber (c.signChars (n < 0)) (if c.alternate then mark else []) ds true
  match letter with
  | 's' =>
    let s ← if escapes then escapedText v else textOf v
    return c.placeText s.toList
  | 'r' => return c.placeText (← literal)
  | 'a' => return c.placeText (Text.escapeBeyondAscii (← literal))
  | 'c' =>
    let place (x : Char) : List Char := { c with precision := none }.placeText [x]
    match escapes, v.text?, v.int? with
    | false, some s, _ =>
      match s.toList with
      | [x] => return place x
      | _ => invalid
    | false, none, some n =>
      if 0 ≤ n ∧ n < 0x110000 then return place (Char.ofNat n.toNat)
      else fail (.fault .overflow)
    | _, _, _ => invalid
  | 'd' | 'i' | 'u' =>
    let n ← ofOutcome (decimalOperand escapes v)
    if n.natAbs ≥ Image.intTextLimit then invalid else return integer 10 [] n
  | 'o' => return integer 8 ['0', 'o'] (← ofOutcome (integerOperand escapes v))
  | 'x' => return integer 16 ['0', 'x'] (← ofOutcome (integerOperand escapes v))
  | 'X' => return integer 16 ['0', 'X'] (← ofOutcome (integerOperand escapes v))
  | letter =>
    if "fFeEgG".toList.contains letter then
      let d ← ofOutcome (if escapes then doubleFrom v else doubleOf v)
      let body := floatBody d letter (c.precision.getD 6) c.alternate
      return c.placeNumber (c.signChars d.isNegative) [] body d.isFinite
    else invalid

/-- The next value of a percent pattern. -/
def PercentArgs.next (a : PercentArgs) : Except Failure (Val × PercentArgs) :=
  match a.rest with
  | v :: rest => .ok (v, { a with rest := rest })
  | [] => invalid

/-- The flags at the front. -/
def takeFlags (c : Conversion) : List Char → Conversion × List Char
  | '-' :: cs => takeFlags { c with left := true } cs
  | '+' :: cs => takeFlags { c with plus := true } cs
  | ' ' :: cs => takeFlags { c with blank := true } cs
  | '#' :: cs => takeFlags { c with alternate := true } cs
  | '0' :: cs => takeFlags { c with zero := true } cs
  | cs => (c, cs)

/-- A number at the front, or a star that takes the next value as the number. -/
def takeCount (limit : Nat) (a : PercentArgs) (cs : List Char) :
    Except Failure (Int × PercentArgs × List Char) :=
  match cs with
  | '*' :: cs => do
    let (v, a) ← a.next
    match a.escapes, v.int? with
    | false, some n =>
      if n.natAbs ≤ limit then return (n, a, cs) else .error (.fault .overflow)
    | _, _ => .error .invalid
  | cs =>
    let n := Number.digitsValue (cs.takeWhile Number.isDigit)
    if limit < n then invalid else .ok (n, a, cs.dropWhile Number.isDigit)

/-- The name between parentheses after a percent sign; parentheses in it nest. -/
def takeKey : Nat → List Char → Option (List Char × List Char)
  | _, [] => none
  | 0, ')' :: cs => some ([], cs)
  | depth + 1, ')' :: cs => (takeKey depth cs).map fun (k, rest) => (')' :: k, rest)
  | depth, '(' :: cs => (takeKey (depth + 1) cs).map fun (k, rest) => ('(' :: k, rest)
  | depth, c :: cs => (takeKey depth cs).map fun (k, rest) => (c :: k, rest)

/-- The item of a collection under a text, where it has to be there. -/
def namedItem (v : Val) (key : String) : Render Val := do
  match v with
  | .undefined => return .undefined
  | .cell .dict id =>
    match Val.lookup? (.str key) (← dictEntries id) with
    | some w => return w
    | none => fail (.fault .noKey)
  | .cell .blocks _ =>
    match ← item? v (.str key) with
    | some w => return w
    | none => fail (.fault .noKey)
  | _ => invalid

/-- Fills in a percent pattern; `fuel` bounds the number of its parts. -/
def fillPercent : Nat → PercentArgs → List Char → Render (List Char × PercentArgs)
  | 0, a, _ => pure ([], a)
  | _ + 1, a, [] => pure ([], a)
  | fuel + 1, a, '%' :: cs => do
    let (named, cs) ← match cs with
      | '(' :: cs =>
        match a.whole, takeKey 0 cs with
        | some v, some (key, cs) => do
          let item ← namedItem v (String.ofList key)
          pure (some item, cs)
        | _, _ => invalid
      | cs => pure (none, cs)
    let a := match named with
      | some v => { a with rest := [v] }
      | none => a
    let (c, cs) := takeFlags {} cs
    let (width, a, cs) ← ofOutcome (takeCount maxWidth a cs)
    let c := if width < 0 then { c with left := true, width := width.natAbs }
      else { c with width := width.toNat }
    let (c, a, cs) ← match cs with
      | '.' :: cs => do
        let (n, a, cs) ← ofOutcome (takeCount maxPlaces a cs)
        pure ({ c with precision := some n.toNat }, a, cs)
      | cs => pure (c, a, cs)
    let cs := match cs with
      | 'h' :: cs | 'l' :: cs | 'L' :: cs => cs
      | cs => cs
    match cs with
    | [] => invalid
    | '%' :: cs => do
      let (more, a) ← fillPercent fuel a cs
      return ('%' :: more, a)
    | letter :: cs => do
      let (v, a) ← ofOutcome a.next
      let here ← convert a.escapes c letter v
      let (more, a) ← fillPercent fuel a cs
      return (here ++ more, a)
  | fuel + 1, a, c :: cs => do
    let (more, a) ← fillPercent fuel a cs
    return (c :: more, a)

/-- Whether items of a value may be asked for, so that it need not be used up. -/
def hasItems : Val → Bool
  | .undefined | .bytes _ | .range _ _ _ => true
  | .cell .list _ | .cell .dict _ | .cell .blocks _ => true
  | _ => false

/-- A percent pattern filled with a value, or with the elements of a tuple, all of which must be
used. -/
def percentFormat (escapes : Bool) (pattern : String) (v : Val) : Render String := do
  let cs := pattern.toList
  let start : PercentArgs :=
    match v with
    | .tuple xs => ⟨escapes, xs, none⟩
    | .group k xs => ⟨escapes, [k, xs], none⟩
    | v => ⟨escapes, [v], if hasItems v then some v else none⟩
  let (out, left) ← fillPercent (cs.length + 1) start cs
  if left.whole.isNone && !left.rest.isEmpty then invalid
  else return String.ofList out

/-- What a percent pattern makes of a value: markup if the pattern is. -/
def percentVal (pattern v : Val) : Render Val := do
  match pattern with
  | .markup s => return .markup (← percentFormat true s v)
  | .str s => return .str (← percentFormat false s v)
  | _ => invalid

end WizardLogic.Template
