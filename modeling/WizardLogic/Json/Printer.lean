import WizardLogic.Value

/-!
# Writing JSON

A value is written in a `Json.Style`: with or without escapes for characters beyond ASCII, with
given separators, and either on one line or indented. Numbers that are not finite are written as
`NaN`, `Infinity` and `-Infinity`. A key that is not a string is written as the JSON text of what
it is.
-/

namespace WizardLogic.Json

/-- How JSON is laid out. -/
structure Style where
  /-- Whether characters beyond ASCII are escaped. -/
  ascii : Bool
  /-- What stands between two items. -/
  itemSep : List Char
  /-- What stands between a key and its value. -/
  keySep : List Char
  /-- The step of the indentation, if every item goes on a line of its own. -/
  indent : Option (List Char)

namespace Style

/-- One line with blanks after commas and colons, characters beyond ASCII kept. -/
def line : Style := ⟨false, [',', ' '], [':', ' '], none⟩

/-- One line with blanks after commas and colons, characters beyond ASCII escaped. -/
def asciiLine : Style := ⟨true, [',', ' '], [':', ' '], none⟩

/-- One line without blanks, characters beyond ASCII escaped. -/
def asciiTight : Style := ⟨true, [','], [':'], none⟩

/-- One item a line, indented by two, characters beyond ASCII kept. -/
def indented : Style := ⟨false, [','], [':', ' '], some [' ', ' ']⟩

end Style

/-- A hexadecimal digit in lower case. -/
def hexDigit (n : Nat) : Char := Char.ofNat (if n < 10 then 48 + n else 87 + n)

/-- An escape with four hexadecimal digits. -/
def unitEscape (n : Nat) : List Char :=
  ['\\', 'u', hexDigit (n / 4096 % 16), hexDigit (n / 256 % 16), hexDigit (n / 16 % 16),
    hexDigit (n % 16)]

/-- A character as it stands in a string literal. Characters beyond the first plane are escaped
as two surrogates. -/
def escapeChar (ascii : Bool) (c : Char) : List Char :=
  let n := c.toNat
  if c = '"' then ['\\', '"']
  else if c = '\\' then ['\\', '\\']
  else if c = '\n' then ['\\', 'n']
  else if c = '\r' then ['\\', 'r']
  else if c = '\t' then ['\\', 't']
  else if n = 12 then ['\\', 'f']
  else if n = 8 then ['\\', 'b']
  else if n < 32 then unitEscape n
  else if !ascii || n < 127 then [c]
  else if n < 0x10000 then unitEscape n
  else unitEscape (0xd800 + (n - 0x10000) / 0x400) ++ unitEscape (0xdc00 + (n - 0x10000) % 0x400)

/-- The characters of a string literal. -/
def quote (ascii : Bool) (s : String) : List Char :=
  '"' :: (s.toList.flatMap (escapeChar ascii) ++ ['"'])

/-- The characters of an integer. -/
def intChars (n : Int) : List Char :=
  (if n < 0 then ['-'] else []) ++ Nat.toDigits 10 n.natAbs

/-- The characters of a floating-point number. -/
def floatChars : Double → List Char
  | .nan => "NaN".toList
  | .inf neg => (if neg then ['-'] else []) ++ "Infinity".toList
  | d => d.chars

/-- The characters of a boolean. -/
def boolChars (b : Bool) : List Char := if b then "true".toList else "false".toList

/-- The text that a key has inside an object. -/
def keyText : Key → String
  | .null => "null"
  | .bool b => String.ofList (boolChars b)
  | .int n => String.ofList (intChars n)
  | .float d => String.ofList (floatChars d)
  | .str s => s

/-- A line break with the indentation of a depth, or nothing for one-line styles. -/
def Style.lineBreak (st : Style) (depth : Nat) : List Char :=
  match st.indent with
  | none => []
  | some step => '\n' :: (List.replicate depth step).flatten

mutual

/-- The characters of a value at a depth of nesting. -/
def write (st : Style) (depth : Nat) : Value → List Char
  | .null => "null".toList
  | .bool b => boolChars b
  | .int n => intChars n
  | .float d => floatChars d
  | .str s => quote st.ascii s
  | .list [] => ['[', ']']
  | .list (v :: vs) =>
    '[' :: (st.lineBreak (depth + 1) ++ write st (depth + 1) v ++ writeItems st (depth + 1) vs ++
      st.lineBreak depth ++ [']'])
  | .obj [] => ['{', '}']
  | .obj ((k, v) :: es) =>
    '{' :: (st.lineBreak (depth + 1) ++ quote st.ascii (keyText k) ++ st.keySep ++
      write st (depth + 1) v ++ writeEntries st (depth + 1) es ++ st.lineBreak depth ++ ['}'])

/-- The items of a list after the first. -/
def writeItems (st : Style) (depth : Nat) : List Value → List Char
  | [] => []
  | v :: vs => st.itemSep ++ st.lineBreak depth ++ write st depth v ++ writeItems st depth vs

/-- The entries of an object after the first. -/
def writeEntries (st : Style) (depth : Nat) : List (Key × Value) → List Char
  | [] => []
  | (k, v) :: es =>
    st.itemSep ++ st.lineBreak depth ++ quote st.ascii (keyText k) ++ st.keySep ++
      write st depth v ++ writeEntries st depth es

end

/-- The JSON text of a value. -/
def print (st : Style) (v : Value) : String := String.ofList (write st 0 v)

end WizardLogic.Json
