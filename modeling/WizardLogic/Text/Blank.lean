import WizardLogic.Text.CodePoint

/-!
# White space

`isBlank` is white space in the sense of Unicode's bidirectional and separator classes: the ASCII
blanks, the four information separators, the next-line and no-break characters and the space
separators. `strip` and `words` cut text by it.
-/

namespace WizardLogic.Text

/-- The code points that are white space. -/
def blankRuns : List (Nat × Nat) := [
  (9, 0xd), (0x1c, 0x20), (0x85, 0x85), (0xa0, 0xa0), (0x1680, 0x1680), (0x2000, 0x200a),
  (0x2028, 0x2029), (0x202f, 0x202f), (0x205f, 0x205f), (0x3000, 0x3000)]

/-- Whether a character is white space. -/
def isBlank (c : Char) : Bool := inRuns blankRuns c

/-- Whether a character is white space in ASCII. -/
def isAsciiBlank (c : Char) : Bool := c = ' ' || (9 ≤ c.toNat && c.toNat ≤ 13)

/-- The characters without white space at the start. -/
def stripLeft (cs : List Char) : List Char := cs.dropWhile isBlank

/-- The characters without white space at the end. -/
def stripRight (cs : List Char) : List Char := (cs.reverse.dropWhile isBlank).reverse

/-- The characters without white space at either end. -/
def strip (cs : List Char) : List Char := stripRight (stripLeft cs)

/-- The maximal runs of characters that are not white space. -/
def words (cs : List Char) : List (List Char) :=
  let step (c : Char) (acc : List Char × List (List Char)) : List Char × List (List Char) :=
    if isBlank c then ([], if acc.1.isEmpty then acc.2 else acc.1 :: acc.2)
    else (c :: acc.1, acc.2)
  let (word, rest) := cs.foldr step ([], [])
  if word.isEmpty then rest else word :: rest

end WizardLogic.Text
