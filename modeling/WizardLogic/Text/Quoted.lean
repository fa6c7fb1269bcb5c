import WizardLogic.Text.Printable

/-!
# Quoted text

How a text is shown inside the text of a collection or of an error: between single quotes, or
double ones if it holds a single quote and no double quote. The quote in use, the backslash and
every character that is not printable are escaped, by the shortest of the hexadecimal forms with
two, four and eight digits.
-/

namespace WizardLogic.Text

/-- The last `width` hexadecimal digits of a number, in lower case. -/
def hexDigits : Nat → Nat → List Char
  | 0, _ => []
  | width + 1, n =>
    let d := n % 16
    hexDigits width (n / 16) ++ [Char.ofNat (if d < 10 then 48 + d else 87 + d)]

/-- The quote that a text is shown in. -/
def quoteFor (cs : List Char) : Char :=
  if cs.contains '\'' && !cs.contains '"' then '"' else '\''

/-- The escape that stands for a character by its code. -/
def codeEscape (c : Char) : List Char :=
  let n := c.toNat
  if n < 0x100 then '\\' :: 'x' :: hexDigits 2 n
  else if n < 0x10000 then '\\' :: 'u' :: hexDigits 4 n
  else '\\' :: 'U' :: hexDigits 8 n

/-- A character as it is shown between quotes. -/
def showChar (quote c : Char) : List Char :=
  if c = quote || c = '\\' then ['\\', c]
  else if c = '\n' then ['\\', 'n']
  else if c = '\r' then ['\\', 'r']
  else if c = '\t' then ['\\', 't']
  else if isPrintable c then [c]
  else codeEscape c

/-- A text in quotes. -/
def quoted (s : String) : List Char :=
  let cs := s.toList
  let q := quoteFor cs
  q :: (cs.flatMap (showChar q) ++ [q])

/-- A text whose characters beyond ASCII are escaped too. -/
def escapeBeyondAscii (cs : List Char) : List Char :=
  cs.flatMap fun c => if c.toNat < 128 then [c] else codeEscape c

end WizardLogic.Text
