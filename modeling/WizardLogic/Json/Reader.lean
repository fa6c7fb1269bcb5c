import WizardLogic.Value

/-!
# Reading JSON

The grammar of JSON with three additions: the words `NaN`, `Infinity` and `-Infinity` are numbers.
A number without fraction and exponent is an integer of any size up to `maxDigits` digits; any
other number is the nearest binary64 number. A key that an object repeats keeps its first place and
its last value.

`Json.read?` accepts a text that holds exactly one value, white space aside. The readers below it
take the characters that are left and return what they read with what is left after it; the two
numbers that steer the mutual recursion bound nesting and length, and `read?` starts them at twice
the length of the text, which is more than can be used.
-/

namespace WizardLogic.Json

/-- Integers with more digits than this have no text form and are not read. -/
def maxDigits : Nat := 4300

/-- White space between tokens. -/
def isSpace (c : Char) : Bool := c = ' ' || c = '\t' || c = '\n' || c = '\r'

/-- The characters from the first that is not white space. -/
def skipSpace (cs : List Char) : List Char := cs.dropWhile isSpace

/-- The value of a hexadecimal digit. -/
def hexValue? (c : Char) : Option Nat :=
  let n := c.toNat
  if 48 ≤ n ∧ n ≤ 57 then some (n - 48)
  else if 97 ≤ n ∧ n ≤ 102 then some (n - 87)
  else if 65 ≤ n ∧ n ≤ 70 then some (n - 55)
  else none

/-- The value of four hexadecimal digits. -/
def hex4? (a b c d : Char) : Option Nat := do
  let a ← hexValue? a
  let b ← hexValue? b
  let c ← hexValue? c
  let d ← hexValue? d
  return ((a * 16 + b) * 16 + c) * 16 + d

/-- The character that a one-letter escape stands for. -/
def shortEscape? : Char → Option Char
  | '"' => some '"'
  | '\\' => some '\\'
  | '/' => some '/'
  | 'b' => some '\x08'
  | 'f' => some '\x0c'
  | 'n' => some '\n'
  | 'r' => some '\r'
  | 't' => some '\t'
  | _ => none

/-- The rest of a string literal after its opening quote: the code units it denotes, and what
follows the closing quote. Control characters must be escaped. -/
def readUnits : List Char → Option (List Nat × List Char)
  | [] => none
  | '"' :: rest => some ([], rest)
  | '\\' :: 'u' :: a :: b :: c :: d :: rest =>
    match hex4? a b c d, readUnits rest with
    | some n, some (units, rest) => some (n :: units, rest)
    | _, _ => none
  | '\\' :: c :: rest =>
    match shortEscape? c, readUnits rest with
    | some e, some (units, rest) => some (e.toNat :: units, rest)
    | _, _ => none
  | c :: rest =>
    if c.toNat < 32 || c = '\\' then none
    else match readUnits rest with
      | some (units, rest) => some (c.toNat :: units, rest)
      | none => none

/-- The characters of a list of code units: an adjacent high and low surrogate are one
character; a surrogate that stands alone becomes the replacement character. -/
def joinUnits : List Nat → List Char
  | [] => []
  | [n] => [if 0xd800 ≤ n ∧ n < 0xe000 then '\ufffd' else Char.ofNat n]
  | n :: m :: rest =>
    if 0xd800 ≤ n ∧ n < 0xdc00 then
      if 0xdc00 ≤ m ∧ m < 0xe000 then
        Char.ofNat (0x10000 + (n - 0xd800) * 0x400 + (m - 0xdc00)) :: joinUnits rest
      else '\ufffd' :: joinUnits (m :: rest)
    else (if 0xdc00 ≤ n ∧ n < 0xe000 then '\ufffd' else Char.ofNat n) :: joinUnits (m :: rest)

/-- The rest of a string literal after its opening quote. -/
def readString (cs : List Char) : Option (String × List Char) :=
  (readUnits cs).map fun (units, rest) => (String.ofList (joinUnits units), rest)

/-- Whether a character is an ASCII decimal digit. -/
def isDigit (c : Char) : Bool := '0' ≤ c && c ≤ '9'

/-- The number that ASCII decimal digits denote. -/
def digitsValue (cs : List Char) : Nat := cs.foldl (fun n c => n * 10 + (c.toNat - 48)) 0

/-- A leading run of digits and what follows it. -/
def takeDigits (cs : List Char) : List Char × List Char :=
  (cs.takeWhile isDigit, cs.dropWhile isDigit)

/-- The digits of a fraction, if there is one. -/
def readFraction (cs : List Char) : List Char × List Char :=
  match cs with
  | '.' :: rest =>
    let (digits, after) := takeDigits rest
    if digits.isEmpty then ([], cs) else (digits, after)
  | _ => ([], cs)

/-- The exponent of a number, if there is one. -/
def readExponent (cs : List Char) : Option Int × List Char :=
  match cs with
  | e :: rest =>
    if e = 'e' ∨ e = 'E' then
      let (neg, body) :=
        match rest with
        | '+' :: r => (false, r)
        | '-' :: r => (true, r)
        | r => (false, r)
      let (digits, after) := takeDigits body
      if digits.isEmpty then (none, cs)
      else
        let n : Int := digitsValue digits
        (some (if neg then -n else n), after)
    else (none, cs)
  | [] => (none, cs)

/-- The digits before the point: a zero alone, or digits that start with another one. -/
def readWhole (cs : List Char) : Option (List Char × List Char) :=
  match cs with
  | '0' :: rest => some (['0'], rest)
  | _ =>
    let (digits, after) := takeDigits cs
    if digits.isEmpty then none else some (digits, after)

/-- The number at the front, after its sign. -/
def readNumber (neg : Bool) (cs : List Char) : Option (Value × List Char) := do
  let (whole, afterWhole) ← readWhole cs
  let (fraction, afterFraction) := readFraction afterWhole
  let (exponent, rest) := readExponent afterFraction
  if fraction.isEmpty && exponent.isNone then
    if whole.length > maxDigits then none
    else
      let n : Int := digitsValue whole
      return (.int (if neg then -n else n), rest)
  else
    let c := digitsValue (whole ++ fraction)
    let e := exponent.getD 0 - (fraction.length : Int)
    return (.float (Double.ofDecimal neg c e), rest)

/-- A word at the front and what follows it. -/
def dropWord? : List Char → List Char → Option (List Char)
  | [], rest => some rest
  | w :: ws, c :: cs => if w = c then dropWord? ws cs else none
  | _ :: _, [] => none

/-- The literal words of the grammar and their values. -/
def words : List (List Char × Value) :=
  [("null".toList, .null), ("true".toList, .bool true), ("false".toList, .bool false),
   ("NaN".toList, .float .nan), ("Infinity".toList, .float (.inf false)),
   ("-Infinity".toList, .float (.inf true))]

/-- A value that is neither a string nor a collection. -/
def readAtom (cs : List Char) : Option (Value × List Char) :=
  match words.findSome? fun (w, v) => (dropWord? w cs).map (v, ·) with
  | some r => some r
  | none =>
    match cs with
    | '-' :: rest => readNumber true rest
    | _ => readNumber false cs

mutual

/-- The value at the front of the characters. -/
def readValue : Nat → List Char → Option (Value × List Char)
  | 0, _ => none
  | fuel + 1, cs =>
    match cs with
    | '"' :: rest => (readString rest).map fun (s, rest) => (.str s, rest)
    | '[' :: rest =>
      match skipSpace rest with
      | ']' :: rest => some (.list [], rest)
      | rest => (readItems fuel rest).map fun (items, rest) => (.list items, rest)
    | '{' :: rest =>
      match skipSpace rest with
      | '}' :: rest => some (.obj [], rest)
      | rest => (readEntries fuel rest).map fun (es, rest) => (.obj (Entries.ofList es), rest)
    | cs => readAtom cs

/-- The items of a list from the first one on, up to and with the closing bracket. -/
def readItems : Nat → List Char → Option (List Value × List Char)
  | 0, _ => none
  | fuel + 1, cs => do
    let (v, rest) ← readValue fuel cs
    match skipSpace rest with
    | ']' :: rest => return ([v], rest)
    | ',' :: rest =>
      let (vs, rest) ← readItems fuel (skipSpace rest)
      return (v :: vs, rest)
    | _ => none

/-- The entries of an object from the first one on, up to and with the closing brace. -/
def readEntries : Nat → List Char → Option (List (Key × Value) × List Char)
  | 0, _ => none
  | fuel + 1, cs =>
    match cs with
    | '"' :: rest => do
      let (k, rest) ← readString rest
      match skipSpace rest with
      | ':' :: rest => do
        let (v, rest) ← readValue fuel (skipSpace rest)
        match skipSpace rest with
        | '}' :: rest => return ([(.str k, v)], rest)
        | ',' :: rest =>
          let (es, rest) ← readEntries fuel (skipSpace rest)
          return ((.str k, v) :: es, rest)
        | _ => none
      | _ => none
    | _ => none

end

/-- The value that a text holds, if it is one JSON value with nothing but white space around
it. -/
def readChars? (cs : List Char) : Option Value :=
  match readValue (2 * cs.length + 2) (skipSpace cs) with
  | some (v, rest) => if (skipSpace rest).isEmpty then some v else none
  | none => none

/-- The value that a text holds, if it is JSON. -/
def read? (s : String) : Option Value := readChars? s.toList

/-- The value that a text holds, or the text itself if it is not JSON. -/
def readOrText (s : String) : Value := (read? s).getD (.str s)

end WizardLogic.Json
