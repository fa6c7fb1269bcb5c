import WizardLogic.Fault

/-!
# Reading a YAML text character by character

A `Cursor` stands somewhere in a text and knows its line and column, which decide much of what YAML
text means. Line breaks are the line feed, the next-line character and the separators of lines and
paragraphs; the last two are kept when lines are joined, the others are not told apart.

A `Scan` reads from a cursor and fails where the text is not YAML.
-/

namespace WizardLogic.Yaml

/-- Why a text has no value. -/
inductive Failure
  /-- The text is not YAML, or YAML of another kind than is read here. -/
  | malformed
  | fault (f : Fault)
deriving DecidableEq, Repr

/-- A place in a text. -/
structure Cursor where
  rest : List Char
  /-- How many characters are behind. -/
  index : Nat := 0
  line : Nat := 0
  column : Nat := 0
deriving Inhabited

/-- Whether a character ends a line. -/
def isBreak (c : Char) : Bool := c = '\n' || c = '\u0085' || c = '\u2028' || c = '\u2029'

/-- The mark that may stand at the start of a text. -/
def byteOrderMark : Char := '\ufeff'

/-- Whether a line ends here, or the text. -/
def endsLine : Option Char → Bool
  | none => true
  | some c => isBreak c

/-- Whether a space or the end of a line is here. -/
def endsItem (c : Option Char) : Bool := endsLine c || c = some ' '

/-- Whether white space or the end of a line is here. -/
def endsWord (c : Option Char) : Bool := endsItem c || c = some '\t'

namespace Cursor

/-- The place behind the next character. -/
def next (c : Cursor) : Cursor :=
  match c.rest with
  | [] => c
  | ch :: rest =>
    if isBreak ch then ⟨rest, c.index + 1, c.line + 1, 0⟩
    else if ch = byteOrderMark then ⟨rest, c.index + 1, c.line, c.column⟩
    else ⟨rest, c.index + 1, c.line, c.column + 1⟩

/-- The place some characters on. -/
def skip : Nat → Cursor → Cursor
  | 0, c => c
  | n + 1, c => skip n c.next

/-- The character some places on. -/
def peekAt (c : Cursor) (n : Nat) : Option Char := c.rest[n]?

/-- Whether a mark between documents stands here, at the start of a line. -/
def atSeparator (c : Cursor) : Bool :=
  (c.rest.take 3 = "---".toList || c.rest.take 3 = "...".toList) && endsWord (c.peekAt 3)

end Cursor

/-- Reading from a text. -/
abbrev Scan := StateT Cursor (Except Failure)

namespace Scan

/-- Fails because the text is not YAML. -/
def malformed {α : Type} : Scan α := throw Failure.malformed

/-- The next character. -/
def peek : Scan (Option Char) := do return (← get).rest.head?

/-- The character some places on. -/
def peekAt (n : Nat) : Scan (Option Char) := do return (← get).peekAt n

/-- Goes some characters on. -/
def skip (n : Nat) : Scan Unit := modify (Cursor.skip n)

/-- Reads some characters. -/
def take (n : Nat) : Scan (List Char) := do
  let c ← get
  set (c.skip n)
  return c.rest.take n

/-- Reads characters as long as they satisfy a condition. -/
def takeWhile (p : Char → Bool) : Scan (List Char) := do
  let c ← get
  let found := c.rest.takeWhile p
  set (c.skip found.length)
  return found

/-- Goes on to the end of the line. -/
def skipToLineEnd : Scan Unit := do
  let _ ← takeWhile fun c => !isBreak c

/-- Goes on behind spaces. -/
def skipSpaces : Scan Unit := do
  let _ ← takeWhile (· = ' ')

/-- Reads a line break, if one is here, in its plain form. -/
def lineBreak : Scan (List Char) := do
  match ← peek with
  | some c =>
    if c = '\u2028' || c = '\u2029' then
      skip 1
      return [c]
    else if isBreak c then
      skip 1
      return ['\n']
    else return []
  | none => return []

/-- Goes on behind the rest of a line, which may be nothing but a comment. -/
def skipIgnoredLine : Scan Unit := do
  skipSpaces
  if (← peek) = some '#' then skipToLineEnd
  if endsLine (← peek) then
    let _ ← lineBreak
  else malformed

end Scan

end WizardLogic.Yaml
