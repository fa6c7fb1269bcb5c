import WizardLogic.Number.Places
import WizardLogic.Template.Look

/-!
# Format specifications

A format specification says how a value is written: filled up to a width, with a sign, with
separators between groups of digits, with a precision, and in one of several notations.

`Spec.ofChars?` reads a specification, `formatWith` writes a value.
-/

namespace WizardLogic.Template

open Render

/-! ### Filling up -/

/-- Characters filled up to a width on the left. -/
def padLeft (width : Nat) (fill : Char) (cs : List Char) : List Char :=
  List.replicate (width - cs.length) fill ++ cs

/-- Characters filled up to a width on the right. -/
def padRight (width : Nat) (fill : Char) (cs : List Char) : List Char :=
  cs ++ List.replicate (width - cs.length) fill

/-- Characters filled up to a width on both sides, the odd one on the right. -/
def padBoth (width : Nat) (fill : Char) (cs : List Char) : List Char :=
  let n := width - cs.length
  List.replicate (n / 2) fill ++ cs ++ List.replicate (n - n / 2) fill

/-! ### Numbers -/

/-- Characters with the ASCII letters in upper case. -/
def capitals (cs : List Char) : List Char := cs.map Char.toUpper

/-- The floating-point number of a value that is a number. -/
def doubleOf (v : Val) : Except Failure Double :=
  match v.number? with
  | some n => liftFault n.toDouble
  | none => invalid

/-- The digits of the absolute value of a number in one of the notations for floating-point
numbers. -/
def floatBody (d : Double) (letter : Char) (precision : Nat) (alternate : Bool) : List Char :=
  let lower := letter.toLower
  let cs :=
    match d with
    | .nan => "nan".toList
    | .inf _ => "inf".toList
    | d =>
      if lower = 'f' then d.fixedChars precision alternate
      else if lower = 'e' then d.scientificChars precision 'e' alternate
      else d.generalChars precision 'e' alternate
  if letter.isUpper then capitals cs else cs

/-- The greatest width that can be asked for. -/
def maxWidth : Nat := Nat.pow 2 63 - 1

/-- The greatest number of places that can be asked for. -/
def maxPlaces : Nat := Nat.pow 2 31 - 1

/-! ### Reading a specification -/

/-- A format specification. -/
structure Spec where
  fill : Char := ' '
  /-- The alignment, if one is written. -/
  align : Option Char := none
  /-- The filling is a zero that stands without an alignment. -/
  zero : Bool := false
  sign : Option Char := none
  /-- A negative zero loses its sign. -/
  unsignedZero : Bool := false
  alternate : Bool := false
  width : Nat := 0
  grouping : Option Char := none
  precision : Option Nat := none
  letter : Option Char := none

/-- Whether a character is an alignment. -/
def isAlign (c : Char) : Bool := c = '<' || c = '>' || c = '=' || c = '^'

/-- The number at the front, if there is one; too great numbers are refused. -/
def takeNumber? (cs : List Char) : Option (Option Nat × List Char) :=
  let ds := cs.takeWhile Text.isDecimal
  let n := ds.foldl (fun n c => n * 10 + (Text.decimalValue? c).getD 0) 0
  if maxWidth < n then none else some (if ds.isEmpty then none else some n, cs.drop ds.length)

/-- The filling and the alignment at the front. -/
def Spec.takeAlign (s : Spec) : List Char → Spec × Bool × List Char
  | f :: a :: rest =>
    if isAlign a then ({ s with fill := f, align := some a }, true, rest)
    else if isAlign f then ({ s with align := some f }, false, a :: rest)
    else (s, false, f :: a :: rest)
  | [a] => if isAlign a then ({ s with align := some a }, false, []) else (s, false, [a])
  | [] => (s, false, [])

/-- The separator between groups of digits at the front; two different ones are refused. -/
def Spec.takeGrouping? (s : Spec) : List Char → Option (Spec × List Char)
  | ',' :: '_' :: _ => none
  | '_' :: ',' :: _ => none
  | ',' :: cs => some ({ s with grouping := some ',' }, cs)
  | '_' :: cs => some ({ s with grouping := some '_' }, cs)
  | cs => some (s, cs)

/-- Whether a notation goes with a separator between groups of digits. -/
def admitsGrouping (sep : Char) (letter : Option Char) : Bool :=
  match letter with
  | none => true
  | some c => "defgEG%F".toList.contains c || (sep = '_' && "boxX".toList.contains c)

/-- The specification that a text denotes. -/
def Spec.ofChars? (cs : List Char) : Option Spec := do
  let (s, filled, cs) := ({} : Spec).takeAlign cs
  let (s, cs) := match cs with
    | c :: rest =>
      if c = '+' || c = '-' || c = ' ' then ({ s with sign := some c }, rest) else (s, cs)
    | [] => (s, cs)
  let (s, cs) := match cs with
    | 'z' :: rest => ({ s with unsignedZero := true }, rest)
    | cs => (s, cs)
  let (s, cs) := match cs with
    | '#' :: rest => ({ s with alternate := true }, rest)
    | cs => (s, cs)
  let (s, cs) := match filled, cs with
    | false, '0' :: rest => ({ s with fill := '0', zero := s.align.isNone }, rest)
    | _, cs => (s, cs)
  let (width, cs) ← takeNumber? cs
  let (s, cs) ← ({ s with width := width.getD 0 }).takeGrouping? cs
  let (s, cs) ← match cs with
    | '.' :: rest => do
      let (precision, rest) ← takeNumber? rest
      if precision.isNone then none else some ({ s with precision := precision }, rest)
    | cs => some (s, cs)
  let s ← match cs with
    | [] => some s
    | [c] => some { s with letter := some c }
    | _ => none
  match s.grouping with
  | some sep => if admitsGrouping sep s.letter then return s else none
  | none => return s

/-! ### Writing a value -/

/-- The sign that a number shows. -/
def Spec.signChars (s : Spec) (negative : Bool) : List Char :=
  if negative then ['-']
  else match s.sign with
    | some '+' => ['+']
    | some ' ' => [' ']
    | _ => []

/-- Digits, given backwards, with a separator between groups and zeros up to a width, backwards;
`fuel` bounds the number of groups. -/
def groupBackwards (size : Nat) (sep : Char) : Nat → Int → List Char → List Char
  | 0, _, ds => ds
  | fuel + 1, least, ds =>
    let n := min size (max (max (ds.length : Int) least) 1).toNat
    let here := padRight n '0' (ds.take n)
    let rest := ds.drop n
    let least := least - n
    if rest.isEmpty && least ≤ 0 then here
    else here ++ sep :: groupBackwards size sep fuel (least - 1) rest

/-- Digits with the separators and zeros of a specification; `least` is the width that zeros are to
fill. -/
def Spec.grouped (s : Spec) (size : Nat) (least : Nat) (ds : List Char) : List Char :=
  if ds.isEmpty then []
  else match s.grouping with
    | some sep => (groupBackwards size sep (ds.length + least + 1) least ds.reverse).reverse
    | none => padLeft least '0' ds

/-- A number in the width of a specification: its sign and mark, its digits, and what follows
them. -/
def Spec.place (s : Spec) (size : Nat) (mark digits rest : List Char) : List Char :=
  let align := s.align.getD (if s.zero then '=' else '>')
  let around := mark.length + rest.length
  let least := if s.fill = '0' && align = '=' then s.width - around else 0
  let body := s.grouped size least digits ++ rest
  match align with
  | '<' => padRight s.width s.fill (mark ++ body)
  | '^' => padBoth s.width s.fill (mark ++ body)
  | '=' => mark ++ padLeft (s.width - mark.length) s.fill body
  | _ => padLeft s.width s.fill (mark ++ body)

/-- The digits of the absolute value of a number without a letter: the shortest, or so many
significant ones, and one behind the point at least. -/
def plainBody (d : Double) (precision : Option Nat) (alternate : Bool) : List Char :=
  if !d.isFinite then floatBody d 'g' 6 false
  else match precision with
    | none =>
      let cs := d.abs.chars
      let whole := cs.takeWhile Number.isDigit
      if alternate && !cs.contains '.' then whole ++ '.' :: cs.drop whole.length else cs
    | some p =>
      let cs := d.boundedChars p ((max p 1 : Nat) - 1) 'e' alternate
      if cs.all Number.isDigit then cs ++ ['.', '0'] else cs

/-- A floating-point number in a specification. -/
def formatDouble (s : Spec) (d : Double) : Except Failure (List Char) := do
  let finish (cs : List Char) : List Char :=
    let digits := cs.takeWhile Number.isDigit
    let isZero := (cs.takeWhile fun c => c != 'e' && c != 'E').all fun c => c = '0' || c = '.'
    let negative := d.isNegative && !(s.unsignedZero && isZero)
    s.place 3 (s.signChars negative) digits (cs.drop digits.length)
  if s.precision.any fun p => maxPlaces < p then .error .invalid
  match s.letter with
  | none => return finish (plainBody d s.precision s.alternate)
  | some '%' =>
    let scaled := d.mul (Double.ofInt 100)
    return finish (floatBody scaled 'f' (s.precision.getD 6) s.alternate ++ ['%'])
  | some c =>
    if "fFeEgG".toList.contains c then
      return finish (floatBody d c (s.precision.getD 6) s.alternate)
    else if c = 'n' then return finish (floatBody d 'g' (s.precision.getD 6) s.alternate)
    else .error .invalid

/-- The base of an integer notation, and the mark that may stand before its digits. -/
def integerBase? (letter : Char) : Option (Nat × List Char) :=
  match letter with
  | 'd' | 'n' => some (10, [])
  | 'b' => some (2, ['0', 'b'])
  | 'o' => some (8, ['0', 'o'])
  | 'x' => some (16, ['0', 'x'])
  | 'X' => some (16, ['0', 'X'])
  | _ => none

/-- An integer in a specification. -/
def formatInt (s : Spec) (n : Int) : Except Failure (List Char) := do
  let c := s.letter.getD 'd'
  if "eEfFgG%".toList.contains c then formatDouble s (← doubleOf (.int n))
  else if s.precision.isSome || s.unsignedZero then .error .invalid
  else if c = 'c' then
    if s.sign.isSome || s.alternate then .error .invalid
    else if 0 ≤ n ∧ n < 0x110000 then return s.place 3 [] [] [Char.ofNat n.toNat]
    else .error (.fault .overflow)
  else
    match integerBase? c with
    | none => .error .invalid
    | some (base, mark) =>
      if base = 10 && n.natAbs ≥ Image.intTextLimit then .error .invalid
      else
        let ds := Nat.toDigits base n.natAbs
        let ds := if c = 'X' then capitals ds else ds
        let mark := if s.alternate then mark else []
        return s.place (if base = 10 then 3 else 4) (s.signChars (n < 0) ++ mark) ds []

/-- A text in a specification. -/
def formatText (s : Spec) (cs : List Char) : Except Failure (List Char) :=
  let other := s.letter.isSome && s.letter != some 's'
  if other || s.sign.isSome || s.unsignedZero || s.alternate || s.grouping.isSome ||
      s.align = some '=' then invalid
  else
    let cs := match s.precision with
      | some p => cs.take p
      | none => cs
    match s.align with
    | some '>' => .ok (padLeft s.width s.fill cs)
    | some '^' => .ok (padBoth s.width s.fill cs)
    | _ => .ok (padRight s.width s.fill cs)

/-- A value in a format specification. Without one any value has its text. -/
def formatWith (spec : List Char) (v : Val) : Render (List Char) := do
  if spec.isEmpty then return (← textOf v).toList
  else match Spec.ofChars? spec with
    | none => invalid
    | some s =>
      match v with
      | .str t | .markup t => ofOutcome (formatText s t.toList)
      | .int n => ofOutcome (formatInt s n)
      | .bool b => ofOutcome (formatInt s (if b then 1 else 0))
      | .float d => ofOutcome (formatDouble s d)
      | _ => invalid

end WizardLogic.Template
