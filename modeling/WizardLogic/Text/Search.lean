import WizardLogic.Text.Blank

/-!
# Searching and splitting text

Texts are lists of characters here. An empty text occurs everywhere: between any two characters and
at both ends.
-/

namespace WizardLogic.Text

/-- The first position at which a text occurs. -/
def find? (needle : List Char) : List Char → Option Nat
  | [] => if needle.isEmpty then some 0 else none
  | c :: cs => if needle.isPrefixOf (c :: cs) then some 0 else (find? needle cs).map (· + 1)

/-- The last position at which a text occurs. -/
def findLast? (needle hay : List Char) : Option Nat :=
  (find? needle.reverse hay.reverse).map fun i => hay.length - needle.length - i

/-- Whether a text occurs in another. -/
def occurs (needle hay : List Char) : Bool := (find? needle hay).isSome

/-- The pieces between occurrences of a separator that is not empty, at most `limit + 1` of them
when there is a limit. `fuel` bounds their number. -/
def splitOn (sep : List Char) : Nat → Option Nat → List Char → List (List Char)
  | 0, _, cs => [cs]
  | fuel + 1, limit, cs =>
    if limit = some 0 then [cs]
    else match find? sep cs with
      | some i => cs.take i :: splitOn sep fuel (limit.map (· - 1)) (cs.drop (i + sep.length))
      | none => [cs]

/-- The pieces between occurrences of a separator, none longer than needed. -/
def split (sep : List Char) (limit : Option Nat) (cs : List Char) : List (List Char) :=
  splitOn sep (cs.length + 1) limit cs

/-- The same, cutting from the end. -/
def splitLast (sep : List Char) (limit : Option Nat) (cs : List Char) : List (List Char) :=
  ((split sep.reverse limit cs.reverse).map List.reverse).reverse

/-- The words of a text, at most `limit + 1` pieces when there is a limit; the last piece keeps
what follows it. `fuel` bounds their number. -/
def wordsUpTo : Nat → Option Nat → List Char → List (List Char)
  | 0, _, _ => []
  | fuel + 1, limit, cs =>
    match stripLeft cs with
    | [] => []
    | cs =>
      if limit = some 0 then [cs]
      else
        let isInk (c : Char) : Bool := !isBlank c
        cs.takeWhile isInk :: wordsUpTo fuel (limit.map (· - 1)) (cs.dropWhile isInk)

/-- The number of occurrences of a text that do not overlap. -/
def count (needle hay : List Char) : Nat :=
  if needle.isEmpty then hay.length + 1 else (split needle none hay).length - 1

/-- Occurrences of a text replaced by another, at most `limit` of them. -/
def replace (old new : List Char) (limit : Option Nat) (cs : List Char) : List Char :=
  if old.isEmpty then
    let rec spread : Option Nat → List Char → List Char
      | some 0, cs => cs
      | _, [] => new
      | limit, c :: cs => new ++ c :: spread (limit.map (· - 1)) cs
    spread limit cs
  else new.intercalate (split old limit cs)

/-- Whether a character ends a line. -/
def isLineEnd (c : Char) : Bool :=
  let n := c.toNat
  (10 ≤ n && n ≤ 13) || (28 ≤ n && n ≤ 30) || n = 0x85 || n = 0x2028 || n = 0x2029

/-- The lines of a text, with or without their ends; `line` holds the characters of the current
line, last first. -/
def linesFrom (keepEnds : Bool) (line : List Char) : List Char → List (List Char)
  | [] => if line.isEmpty then [] else [line.reverse]
  | '\r' :: '\n' :: cs =>
    (if keepEnds then ('\n' :: '\r' :: line).reverse else line.reverse) :: linesFrom keepEnds [] cs
  | c :: cs =>
    if isLineEnd c then
      (if keepEnds then (c :: line).reverse else line.reverse) :: linesFrom keepEnds [] cs
    else linesFrom keepEnds (c :: line) cs

/-- The lines of a text. -/
def lines (keepEnds : Bool) (cs : List Char) : List (List Char) := linesFrom keepEnds [] cs

/-- The characters without those of a set at the start. -/
def dropSetLeft (set cs : List Char) : List Char := cs.dropWhile set.contains

/-- The characters without those of a set at the end. -/
def dropSetRight (set cs : List Char) : List Char := (dropSetLeft set cs.reverse).reverse

end WizardLogic.Text
