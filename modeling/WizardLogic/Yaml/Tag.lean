import WizardLogic.Number.Reading
import WizardLogic.Text.Search

/-!
# Tags and the spellings of plain scalars

A tag says what kind of value a node stands for. Most nodes are not tagged: then a collection is a
list or a mapping, and a scalar is text unless it is written plainly and spelled like a value of
another kind (`Tag.ofSpelling`). The spellings are those of YAML 1.1. Among them are truth values
such as `yes` and `off`, numbers in several bases and in sexagesimal digits, and dates. A number
that is not whole has a point, and its exponent a sign, so `1e5` is text.
-/

namespace WizardLogic.Yaml

/-- A kind of node. -/
inductive Tag
  | null
  | bool
  | int
  | float
  | timestamp
  | text
  | binary
  /-- The key under which a mapping takes over the entries of others. -/
  | merge
  /-- The key under which a mapping has a value of its own. -/
  | default
  | sequence
  | mapping
  | set
  /-- A list of mappings with one entry each. -/
  | pairs
  /-- Any other kind. -/
  | other
deriving DecidableEq, Repr

namespace Tag

/-- What the names of the common tags begin with. -/
def commonStart : String := "tag:yaml.org,2002:"

/-- The names of the common tags, without their common start. -/
def common : List (String × Tag) :=
  [("null", null), ("bool", bool), ("int", int), ("float", float), ("timestamp", timestamp),
    ("str", text), ("binary", binary), ("merge", merge), ("value", default), ("seq", sequence),
    ("map", mapping), ("set", set), ("omap", pairs), ("pairs", pairs)]

/-- The tag of a name. -/
def ofName (name : String) : Tag :=
  ((common.find? fun (rest, _) => commonStart ++ rest = name).map Prod.snd).getD other

/-! ### Spellings -/

/-- Whether a character is a decimal digit or a separator of digits. -/
def isDigitOrBar (c : Char) : Bool := c.isDigit || c = '_'

/-- Whether characters are decimal digits, perhaps with separators behind the first. -/
def isDigits : List Char → Bool
  | [] => false
  | c :: rest => c.isDigit && rest.all isDigitOrBar

/-- Whether a part of a sexagesimal number behind a colon is spelled well. -/
def isSexagesimal : List Char → Bool
  | [a] => a.isDigit
  | [a, b] => '0' ≤ a && a ≤ '5' && b.isDigit
  | _ => false

/-- What follows a sign that may be missing. -/
def dropSign : List Char → List Char
  | '+' :: rest => rest
  | '-' :: rest => rest
  | rest => rest

/-- The characters in front of the first mark and behind it. -/
def cut? (mark : Char) (cs : List Char) : Option (List Char × List Char) :=
  match cs.dropWhile (· != mark) with
  | [] => none
  | _ :: rest => some (cs.takeWhile (· != mark), rest)

/-- Whether characters spell a whole number without sign. -/
def isNatural (cs : List Char) : Bool :=
  match cs with
  | '0' :: 'b' :: c :: rest => (c :: rest).all fun d => d = '0' || d = '1' || d = '_'
  | '0' :: 'x' :: c :: rest =>
    (c :: rest).all fun d =>
      isDigitOrBar d || ('a' ≤ d && d ≤ 'f') || ('A' ≤ d && d ≤ 'F')
  | '0' :: rest => rest.all fun d => ('0' ≤ d && d ≤ '7') || d = '_'
  | _ =>
    match Text.split [':'] none cs with
    | [] => false
    | first :: rest => isDigits first && rest.all isSexagesimal

/-- Whether characters spell an exponent or are empty. -/
def isExponent : List Char → Bool
  | [] => true
  | e :: sign :: c :: rest =>
    (e = 'e' || e = 'E') && (sign = '+' || sign = '-') && (c :: rest).all Char.isDigit
  | _ => false

/-- Whether characters are digits with separators, up to an exponent. -/
def isFraction (cs : List Char) : Bool := isExponent (cs.dropWhile isDigitOrBar)

/-- Whether characters spell a number that has a point. -/
def isPointed (cs : List Char) : Bool :=
  let body := dropSign cs
  match cut? '.' body with
  | none => false
  | some ([], rest) =>
    let word := String.ofList rest
    ["inf", "Inf", "INF"].contains word ||
      (body = cs && (["nan", "NaN", "NAN"].contains word ||
        (rest.head?.any Char.isDigit && isFraction rest)))
  | some (whole, rest) =>
    match Text.split [':'] none whole with
    | [] => false
    | [first] => isDigits first && isFraction rest
    | first :: more => isDigits first && more.all isSexagesimal && rest.all isDigitOrBar

/-- The spellings of truth values. -/
def truthWords : List String :=
  ["yes", "Yes", "YES", "no", "No", "NO", "true", "True", "TRUE", "false", "False", "FALSE",
    "on", "On", "ON", "off", "Off", "OFF"]

/-- The spellings of null. -/
def nullWords : List String := ["", "~", "null", "Null", "NULL"]

/-- Takes some digits, at least and at most so many. -/
def digits? (least most : Nat) (cs : List Char) : Option (List Char × List Char) :=
  let found := (cs.take most).takeWhile Char.isDigit
  if found.length < least then none else some (found, cs.drop found.length)

end Tag

end WizardLogic.Yaml
