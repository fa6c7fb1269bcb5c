import WizardLogic.Number.Double
import WizardLogic.Text.Blank
import WizardLogic.Text.Alphanumeric

/-!
# Reading numbers from text

The written forms of numbers that stand outside JSON: surrounding white space, a sign of either
kind, decimal digits of any script, and single underscores between digits are allowed
(`readInt?`, `readDouble?`). Integers may have leading zeros but no more than `maxIntDigits`
digits; floating-point numbers may leave out the digits on one side of the point, and the words
for infinity and for what is not a number are known in any letter case.
-/

namespace WizardLogic.Number

/-- The longest integer that is read or written, in digits. -/
def maxIntDigits : Nat := 4300

/-- The ASCII form of a character beyond ASCII: blanks become spaces and decimal digits of any
script their ASCII digit; other characters are kept and belong to no number. -/
def asciiForm (c : Char) : Char :=
  if c.toNat < 127 then c
  else if Text.isBlank c then ' '
  else match Text.decimalValue? c with
    | some n => Char.ofNat (48 + n)
    | none => c

/-- The characters of a number in their ASCII form, with the white space around it removed. -/
def trimmed (cs : List Char) : List Char :=
  let cs := cs.map asciiForm
  ((cs.dropWhile Text.isAsciiBlank).reverse.dropWhile Text.isAsciiBlank).reverse

/-- Whether a character is an ASCII digit. -/
def isDigit (c : Char) : Bool := '0' ≤ c && c ≤ '9'

/-- The number that ASCII digits denote. -/
def digitsValue (cs : List Char) : Nat := cs.foldl (fun n c => n * 10 + (c.toNat - 48)) 0

/-- A sign at the front, and what follows it. -/
def takeSign : List Char → Bool × List Char
  | '+' :: rest => (false, rest)
  | '-' :: rest => (true, rest)
  | rest => (false, rest)

/-- The characters without the underscores, if each of them stands between two digits. -/
def dropUnderscores? (afterDigit : Bool) : List Char → Option (List Char)
  | [] => some []
  | '_' :: c :: rest =>
    if afterDigit && isDigit c then (dropUnderscores? true rest).map (c :: ·) else none
  | '_' :: [] => none
  | c :: rest => (dropUnderscores? (isDigit c) rest).map (c :: ·)

/-- The integer that a text denotes. -/
def readInt? (cs : List Char) : Option Int := do
  let (neg, body) := takeSign (trimmed cs)
  let digits ← dropUnderscores? false body
  if digits.isEmpty || !digits.all isDigit || digits.length > maxIntDigits then none
  else
    let n : Int := digitsValue digits
    return if neg then -n else n

/-- The value of a decimal without sign: digits, a point, digits and an exponent, of which only
one digit is needed. -/
def readDecimal? (neg : Bool) (cs : List Char) : Option Double :=
  let whole := cs.takeWhile isDigit
  let afterWhole := cs.dropWhile isDigit
  let (fraction, rest) :=
    match afterWhole with
    | '.' :: r => (r.takeWhile isDigit, r.dropWhile isDigit)
    | r => ([], r)
  if whole.isEmpty && fraction.isEmpty then none
  else
    let value (e : Int) : Double :=
      Double.ofDecimal neg (digitsValue (whole ++ fraction)) (e - (fraction.length : Int))
    match rest with
    | [] => some (value 0)
    | e :: r =>
      if e = 'e' || e = 'E' then
        let (eneg, digits) := takeSign r
        if digits.isEmpty || !digits.all isDigit then none
        else
          let n : Int := digitsValue digits
          some (value (if eneg then -n else n))
      else none

/-- The floating-point number that a text denotes. -/
def readDouble? (cs : List Char) : Option Double :=
  let (neg, body) := takeSign (trimmed cs)
  let word := String.ofList (body.map Char.toLower)
  if word = "inf" || word = "infinity" then some (.inf neg)
  else if word = "nan" then some .nan
  else (dropUnderscores? false body).bind (readDecimal? neg)

end WizardLogic.Number
