import WizardLogic.Yaml.Tag
import WizardLogic.Number.Places

/-!
# Points in time

A date is written as year, month and day. A point in time has hours, minutes and seconds behind the
date, perhaps a fraction of a second, and perhaps an offset from universal time. The spelling is
told apart from the sense: the thirteenth month is spelled well and does not exist.

A point in time that exists is written in one form only (`Timestamp.text`).
-/

namespace WizardLogic.Yaml

/-- The time of a day. -/
structure TimeOfDay where
  hour : Nat
  minute : Nat
  second : Nat
  microsecond : Nat
  /-- The offset from universal time in minutes. -/
  offset : Option Int
deriving DecidableEq, Repr

/-- A date, perhaps with a time of day. -/
structure Timestamp where
  year : Nat
  month : Nat
  day : Nat
  time : Option TimeOfDay
deriving DecidableEq, Repr

namespace Timestamp

/-- A number of some digits, at least and at most so many, and what follows it. -/
def number? (least most : Nat) (cs : List Char) : Option (Nat × List Char) := do
  let (ds, rest) ← Tag.digits? least most cs
  return (Number.digitsValue ds, rest)

/-- What follows a mark. -/
def mark? (c : Char) : List Char → Option (List Char)
  | d :: rest => if d = c then some rest else none
  | [] => none

/-- Whether a character is a space or a tabulator. -/
def isBlank (c : Char) : Bool := c = ' ' || c = '\t'

/-- A fraction of a second in millionths, and what follows it. -/
def fraction (cs : List Char) : Nat × List Char :=
  match cs with
  | '.' :: rest =>
    let ds := rest.takeWhile Char.isDigit
    (Number.digitsValue ((ds ++ List.replicate 6 '0').take 6), rest.drop ds.length)
  | _ => (0, cs)

/-- The offset that ends a point in time, if there is one. -/
def offset? (cs : List Char) : Option (Option Int) :=
  match cs.dropWhile isBlank with
  | [] => if cs.isEmpty then some none else none
  | ['Z'] => some (some 0)
  | sign :: rest =>
    if sign = '+' || sign = '-' then do
      let (hours, rest) ← number? 1 2 rest
      let minutes ←
        match rest with
        | [] => some 0
        | ':' :: rest => do
          let (minutes, rest) ← number? 2 2 rest
          if rest.isEmpty then some minutes else none
        | _ => none
      let all : Int := hours * 60 + minutes
      return some (if sign = '-' then -all else all)
    else none

/-- The time of day that is spelled behind a date. -/
def time? (cs : List Char) : Option TimeOfDay := do
  let rest ←
    match cs with
    | c :: rest =>
      if c = 'T' || c = 't' then some rest
      else if isBlank c then some (rest.dropWhile isBlank)
      else none
    | [] => none
  let (hour, rest) ← number? 1 2 rest
  let (minute, rest) ← number? 2 2 (← mark? ':' rest)
  let (second, rest) ← number? 2 2 (← mark? ':' rest)
  let (microsecond, rest) := fraction rest
  return ⟨hour, minute, second, microsecond, ← offset? rest⟩

/-- The point in time that is spelled, whether it exists or not. -/
def ofSpelling? (cs : List Char) : Option Timestamp := do
  let (year, rest) ← number? 4 4 cs
  let (month, rest) ← number? 1 2 (← mark? '-' rest)
  let (day, rest) ← number? 1 2 (← mark? '-' rest)
  if rest.isEmpty then
    if cs.length = 10 then some ⟨year, month, day, none⟩ else none
  else return ⟨year, month, day, some (← time? rest)⟩

/-- Whether a year has a day more. -/
def isLeap (year : Nat) : Bool := year % 4 = 0 && (year % 100 != 0 || year % 400 = 0)

/-- How many days a month has. -/
def monthDays (year month : Nat) : Nat :=
  if month = 2 then if isLeap year then 29 else 28
  else if month = 4 || month = 6 || month = 9 || month = 11 then 30
  else 31

/-- Whether a point in time exists. -/
def exists? (t : Timestamp) : Bool :=
  1 ≤ t.year && 1 ≤ t.month && t.month ≤ 12 && 1 ≤ t.day && t.day ≤ monthDays t.year t.month &&
    t.time.all fun d =>
      d.hour < 24 && d.minute < 60 && d.second < 60 && d.offset.all fun o => o.natAbs < 1440

/-- The digits of a number, padded with zeros. -/
def padded (width n : Nat) : String := String.ofList (Double.paddedDigits width n)

/-- The written form of an offset. -/
def offsetText (o : Int) : String :=
  if o = 0 then "Z"
  else
    let sign := if o < 0 then "-" else "+"
    sign ++ padded 2 (o.natAbs / 60) ++ ":" ++ padded 2 (o.natAbs % 60)

/-- The written form of a point in time. -/
def text (t : Timestamp) : String :=
  let date := padded 4 t.year ++ "-" ++ padded 2 t.month ++ "-" ++ padded 2 t.day
  match t.time with
  | none => date
  | some d =>
    let fraction := if d.microsecond = 0 then "" else "." ++ padded 6 d.microsecond
    let offset := (d.offset.map offsetText).getD ""
    date ++ "T" ++ padded 2 d.hour ++ ":" ++ padded 2 d.minute ++ ":" ++ padded 2 d.second ++
      fraction ++ offset

end Timestamp

/-- The tag that a plain scalar has by its spelling. -/
def Tag.ofSpelling (text : String) : Tag :=
  let cs := text.toList
  if truthWords.contains text then .bool
  else if isPointed cs then .float
  else if isNatural (dropSign cs) then .int
  else if text = "<<" then .merge
  else if nullWords.contains text then .null
  else if (Timestamp.ofSpelling? cs).isSome then .timestamp
  else if text = "=" then .default
  else .text

end WizardLogic.Yaml
