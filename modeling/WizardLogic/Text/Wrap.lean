import WizardLogic.Text.Search
import WizardLogic.Text.Alphanumeric

/-!
# Wrapping text

A text is wrapped by cutting it into pieces (`Text.pieces`) and filling lines of a width with them
(`Text.wrap`). A piece is a run of ASCII blanks or a word; a word that contains hyphens between letters may
be broken behind a hyphen, and dashes between words are pieces of their own.

A line takes pieces while they fit. A piece that is too long for any line is broken, if that is
allowed, and stands alone otherwise. Blanks at the end of a line are dropped, and so are those at
its start unless it is the first line.
-/

namespace WizardLogic.Text

/-- Whether a character counts as a letter in a word that may be broken. -/
def isWordLetter (c : Char) : Bool := isWordChar c && !isDecimal c

/-- Whether a character may stand in front of dashes between words. -/
def isDashable (c : Char) : Bool := isWordChar c || "!\"'&.,?".toList.contains c

/-- How many dashes part two words here: two or more, after what they may follow, before a word. -/
def dashLength (before rest : List Char) : Nat :=
  let dashes := rest.takeWhile (· = '-')
  let follows := (rest.drop dashes.length).head?.any isWordChar
  if 2 ≤ dashes.length && before.head?.any isDashable && follows then dashes.length else 0

/-- Whether a hyphen comes next behind which a word may be broken: two letters stand before it, or
two letters with a hyphen between them, and after it two letters or two with a hyphen between. -/
def breaksAtHyphen (before rest : List Char) : Bool :=
  let lettersBefore := match before with
    | a :: '-' :: b :: _ => isWordLetter a && isWordLetter b
    | a :: b :: _ => isWordLetter a && isWordLetter b
    | _ => false
  let lettersAfter (cs : List Char) : Bool := match cs with
    | a :: '-' :: b :: _ => isWordLetter a && isWordLetter b
    | a :: b :: _ => isWordLetter a && isWordLetter b
    | _ => false
  match rest with
  | '-' :: cs => lettersBefore && lettersAfter cs
  | _ => false

/-- How many further characters belong to a word that has begun. `before` holds the characters before
the place, nearest first. -/
def wordLength (before : List Char) : List Char → Nat
  | [] => 0
  | c :: cs =>
    if breaksAtHyphen before (c :: cs) then 1
    else if isAsciiBlank c || 0 < dashLength before (c :: cs) then 0
    else wordLength (c :: before) cs + 1

/-- The length of the piece at the front of a text that is not empty. -/
def pieceLength (hyphens : Bool) (before rest : List Char) : Nat :=
  match rest with
  | [] => 0
  | c :: cs =>
    if isAsciiBlank c then (rest.takeWhile isAsciiBlank).length
    else if !hyphens then (rest.takeWhile fun c => !isAsciiBlank c).length
    else
      let dashes := dashLength before rest
      if 0 < dashes then dashes else wordLength (c :: before) cs + 1

/-- The pieces of a text; `fuel` bounds their number. -/
def piecesFrom (hyphens : Bool) : Nat → List Char → List Char → List (List Char)
  | 0, _, _ => []
  | _ + 1, _, [] => []
  | fuel + 1, before, cs =>
    let piece := cs.take (pieceLength hyphens before cs)
    piece :: piecesFrom hyphens fuel (piece.reverse ++ before) (cs.drop piece.length)

/-- The pieces of a text. -/
def pieces (hyphens : Bool) (cs : List Char) : List (List Char) :=
  piecesFrom hyphens (cs.length + 1) [] cs

/-- How lines are filled. -/
structure Wrapping where
  /-- The greatest length of a line, at least one. -/
  width : Nat
  /-- Whether words that are too long for a line are broken. -/
  breakLong : Bool
  /-- Whether words are broken behind hyphens first. -/
  hyphens : Bool

/-- The pieces that fit into the room of a line, and the others. -/
def fitting (room : Nat) : List (List Char) → List (List Char) × List (List Char)
  | [] => ([], [])
  | p :: ps =>
    if p.length ≤ room then
      let (line, rest) := fitting (room - p.length) ps
      (p :: line, rest)
    else ([], p :: ps)

/-- Where a word that is too long is broken to fill the room of a line. -/
def breakAt (w : Wrapping) (room : Nat) (word : List Char) : Nat :=
  if w.hyphens && room < word.length then
    match findLast? ['-'] (word.take room) with
    | some i => if 0 < i && (word.take i).any (· != '-') then i + 1 else room
    | none => room
  else room

/-- One line of pieces, and the pieces that are left. -/
def fillLine (w : Wrapping) (ps : List (List Char)) : List (List Char) × List (List Char) :=
  let (line, rest) := fitting w.width ps
  match rest with
  | p :: rest =>
    if p.length ≤ w.width then (line, p :: rest)
    else if w.breakLong then
      let room := breakAt w (w.width - line.flatten.length) p
      (line ++ [p.take room], p.drop room :: rest)
    else if line.isEmpty then ([p], rest)
    else (line, p :: rest)
  | [] => (line, [])

/-- Whether a piece consists of blanks. -/
def isBlankPiece (p : List Char) : Bool := p.all isBlank

/-- The lines that pieces fill; `fuel` bounds their number. -/
def linesOf (w : Wrapping) : Nat → Bool → List (List Char) → List (List Char)
  | 0, _, _ => []
  | _ + 1, _, [] => []
  | fuel + 1, first, p :: ps =>
    let (line, rest) := fillLine w (if !first && isBlankPiece p then ps else p :: ps)
    let line := match line.getLast? with
      | some last => if isBlankPiece last then line.dropLast else line
      | none => line
    if line.isEmpty then linesOf w fuel first rest
    else line.flatten :: linesOf w fuel false rest

/-- **The lines of a text in a width.** -/
def wrap (w : Wrapping) (cs : List Char) : List (List Char) :=
  linesOf w (2 * cs.length + 2) true (pieces w.hyphens cs)

end WizardLogic.Text
