import WizardLogic.Template.Image
import WizardLogic.Text.Search

/-!
# Literal notation on several lines

The literal notation of a value, laid out on lines of eighty characters (`Image.outline`). What fits
into its line stays in one line. A collection that does not fit is written with one item to a line,
and a text that does not fit as several texts below one another, broken at line ends and behind
blanks. The entries of an object stand in the order of their keys; keys without a common order are
ordered by their kinds.
-/

namespace WizardLogic.Template

/-- The length of a line. -/
def outlineWidth : Nat := 80

/-- The pieces of a line of text, each with the blanks behind it; `fuel` bounds their number. -/
def blankEnded : Nat → List Char → List (List Char)
  | 0, _ => []
  | _ + 1, [] => []
  | fuel + 1, cs =>
    let word := cs.takeWhile fun c => !Text.isBlank c
    let gap := (cs.drop word.length).takeWhile Text.isBlank
    (word ++ gap) :: blankEnded fuel (cs.drop (word.length + gap.length))

/-- Pieces joined to parts whose quoted form fits into a width, as far as they do; the last one has
to leave room. `part` holds what has been joined so far. -/
def joinPieces (width room : Int) (part : List Char) : List (List Char) → List (List Char)
  | [] => if part.isEmpty then [] else [part]
  | p :: ps =>
    let width := if ps.isEmpty then width - room else width
    let quoted := Text.quoted (String.ofList (part ++ p))
    if width < (quoted.length : Int) then
      (if part.isEmpty then [] else [part]) ++ joinPieces width room p ps
    else joinPieces width room (part ++ p) ps

/-- The parts that the lines of a text are broken into; the last one has to leave room. -/
def partsOfLines (width room : Int) : List (List Char) → List (List Char)
  | [] => []
  | line :: rest =>
    let here := if rest.isEmpty then room else 0
    let quoted := Text.quoted (String.ofList line)
    (if (quoted.length : Int) ≤ width - here then [line]
      else joinPieces width here [] (blankEnded (line.length + 1) line)) ++
      partsOfLines width room rest

/-- Texts below one another. -/
def stack (indent : Nat) (rows : List (List Char)) : List Char :=
  ('\n' :: List.replicate indent ' ').intercalate rows

namespace Image

/-- The place of the kind of an image among the kinds, by which keys without a common order are
ordered. -/
def kindRank : Image → Nat
  | none => 0
  | bool _ => 1
  | bytes _ => 2
  | complex _ => 3
  | float _ => 4
  | int _ => 5
  | tuple true _ => 6
  | space _ _ => 7
  | markup _ => 8
  | range _ _ _ => 9
  | str _ => 10
  | tuple false _ => 11
  | _ => 12

/-- Whether a key stands before another one. -/
def keyBefore (a b : Image) : Bool :=
  match ordered? .lt a b with
  | some r => r
  | Option.none => kindRank a < kindRank b

mutual

/-- An image with the entries of its objects in the order of their keys. -/
def arranged : Image → Image
  | list xs => list (arrangedAll xs)
  | tuple false xs => tuple false (arrangedAll xs)
  | dict es => dict ((arrangedEntries es).mergeSort fun a b => !keyBefore b.1 a.1)
  | v => v

/-- Several images arranged. -/
def arrangedAll : List Image → List Image
  | [] => []
  | x :: xs => arranged x :: arrangedAll xs

/-- The entries of an object with their values arranged. -/
def arrangedEntries : List (Image × Image) → List (Image × Image)
  | [] => []
  | (k, v) :: es => (k, arranged v) :: arrangedEntries es

end

mutual

/-- The notation of an image from an indentation on, with room left behind it. Around a text that is
the whole value and broken into several stand parentheses. -/
def outlineFrom (indent room : Nat) (whole : Bool) (v : Image) : List Char :=
  let flat := literal v
  if flat.length ≤ outlineWidth - indent - room then flat
  else match v with
    | list xs => '[' :: (outlineItems (indent + 1) (room + 1) xs ++ [']'])
    | tuple false [x] => '(' :: (outlineItems (indent + 1) (room + 2) [x] ++ [',', ')'])
    | tuple false xs => '(' :: (outlineItems (indent + 1) (room + 1) xs ++ [')'])
    | set xs => '{' :: (outlineItems (indent + 1) (room + 1) xs ++ ['}'])
    | dict es => '{' :: (outlineEntries (indent + 1) (room + 1) es ++ ['}'])
    | str s =>
      let indent := if whole then indent + 1 else indent
      let room := if whole then room + 1 else room
      let parts := partsOfLines ((outlineWidth : Int) - indent) room (Text.lines true s.toList)
      match parts with
      | [] | [_] => flat
      | parts =>
        let rows := stack indent (parts.map fun p => Text.quoted (String.ofList p))
        if whole then '(' :: (rows ++ [')']) else rows
    | _ => flat

/-- The items of a collection, one to a line. -/
def outlineItems (indent room : Nat) : List Image → List Char
  | [] => []
  | [x] => outlineFrom indent room false x
  | x :: y :: xs =>
    outlineFrom indent 1 false x ++ ',' :: '\n' ::
      (List.replicate indent ' ' ++ outlineItems indent room (y :: xs))

/-- The entries of an object, one to a line. -/
def outlineEntries (indent room : Nat) : List (Image × Image) → List Char
  | [] => []
  | [(k, v)] =>
    let key := literal k
    key ++ ':' :: ' ' :: outlineFrom (indent + key.length + 2) room false v
  | (k, v) :: e :: es =>
    let key := literal k
    key ++ ':' :: ' ' :: (outlineFrom (indent + key.length + 2) 1 false v ++ ',' :: '\n' ::
      (List.replicate indent ' ' ++ outlineEntries indent room (e :: es)))

end

/-- **The literal notation of an image on lines of limited length.** -/
def outline (v : Image) : List Char := outlineFrom 0 0 true (arranged v)

end Image

end WizardLogic.Template
