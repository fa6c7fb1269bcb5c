import WizardLogic.Text.Alphanumeric
import WizardLogic.Text.Blank
import WizardLogic.Text.Case

/-!
# Regular expressions

A regular expression is a tree of nodes. Options such as ignoring letter case hold for parts of an
expression, so the nodes they matter to carry them.
-/

namespace WizardLogic.Regex

/-- The named classes of characters. -/
inductive Category
  | digit | space | word
deriving DecidableEq, Repr

/-- A member of a character set. -/
inductive SetItem
  | char (c : Char)
  | range (first last : Nat)
  /-- A named class or its complement. -/
  | category (kind : Category) (negated : Bool)
deriving DecidableEq, Repr

/-- How a repetition tries its counts. -/
inductive RepeatMode
  | greedy | lazy
  /-- As often as possible, and never less often later. -/
  | possessive
deriving DecidableEq, Repr

/-- A regular expression. -/
inductive Node
  /-- Matches nothing at all. -/
  | never
  | char (c : Char) (ignoreCase : Bool)
  /-- Any character, line ends only if so told. -/
  | any (lineEnds : Bool)
  | set (negated : Bool) (items : List SetItem) (ignoreCase ascii : Bool)
  /-- The start of the text, or of a line. -/
  | start (lines : Bool)
  /-- The end of the text, also before a last line end, or the end of a line. -/
  | finish (lines : Bool)
  /-- The very end of the text. -/
  | textEnd
  /-- A place between a word character and another one, or its absence. -/
  | boundary (negated ascii : Bool)
  | sequence (nodes : List Node)
  | alternatives (nodes : List Node)
  /-- A numbered group, whose text is remembered. -/
  | group (id : Nat) (body : Node)
  | repetition (min : Nat) (max : Option Nat) (mode : RepeatMode) (body : Node)
  /-- The text that a group matched. -/
  | reference (id : Nat) (ignoreCase ascii : Bool)
  /-- A condition on what follows. -/
  | ahead (negated : Bool) (body : Node)
  /-- A condition on the so many characters before. -/
  | behind (negated : Bool) (width : Nat) (body : Node)
  /-- The first way in which the body matches, and no other. -/
  | atomic (body : Node)
  /-- The first node if a group has matched, else the second. -/
  | ifGroup (id : Nat) (yes no : Node)
deriving Inhabited

/-! ### Characters -/

/-- Whether a character belongs to a named class. -/
def Category.holds (kind : Category) (ascii : Bool) (c : Char) : Bool :=
  match kind with
  | .digit => if ascii then c.isDigit else Text.isDecimal c
  | .space => if ascii then Text.isAsciiBlank c else Text.isBlank c
  | .word => if ascii then c.isAlphanum || c = '_' else Text.isWordChar c

/-- The lower case of a character in one of the two alphabets. -/
def lowerCase (ascii : Bool) (c : Char) : Char := if ascii then c.toLower else Text.lowerSingle c

/-- The characters that are the same as a character if letter case is ignored. -/
def caseVariants (ascii : Bool) (c : Char) : List Char :=
  if ascii then [c, c.toLower, c.toUpper]
  else
    let lower := Text.lowerSingle c
    let upper := match Text.upperChar lower with
      | [u] => [u]
      | _ => []
    [c, lower] ++ upper

/-- Whether two characters are the same if letter case is ignored: they have the same lower case, or
the lower cases have the same upper case. -/
def sameIgnoringCase (ascii : Bool) (a b : Char) : Bool :=
  if ascii then a.toLower = b.toLower
  else
    let a := Text.lowerSingle a
    let b := Text.lowerSingle b
    a = b || Text.upperChar a = Text.upperChar b

/-- Whether a character is in a member of a set. -/
def SetItem.holds (ignoreCase ascii : Bool) (c : Char) : SetItem → Bool
  | .char d => if ignoreCase then sameIgnoringCase ascii c d else c = d
  | .range first last =>
    let inside (c : Char) : Bool := first ≤ c.toNat && c.toNat ≤ last
    if ignoreCase then (caseVariants ascii c).any inside else inside c
  | .category kind negated => kind.holds ascii c != negated

/-! ### Widths -/

/-- The least and greatest number of characters; none is without bound. -/
abbrev Width := Nat × Option Nat

/-- The width of two things in a row. -/
def Width.add (a b : Width) : Width :=
  (a.1 + b.1, match a.2, b.2 with
    | some m, some n => some (m + n)
    | _, _ => none)

/-- The width of either of two things. -/
def Width.either (a b : Width) : Width :=
  (min a.1 b.1, match a.2, b.2 with
    | some m, some n => some (max m n)
    | _, _ => none)

mutual

/-- How many characters a node matches; `groups` holds the widths of the groups. -/
def Node.width (groups : List (Nat × Width)) : Node → Width
  | .never => (0, some 0)
  | .char _ _ => (1, some 1)
  | .any _ => (1, some 1)
  | .set _ _ _ _ => (1, some 1)
  | .start _ => (0, some 0)
  | .finish _ => (0, some 0)
  | .textEnd => (0, some 0)
  | .boundary _ _ => (0, some 0)
  | .sequence nodes => widthOfAll groups nodes
  | .alternatives nodes => (widthOfAny groups nodes).getD (0, some 0)
  | .group _ body => body.width groups
  | .repetition lo hi _ body =>
    let w := body.width groups
    (w.1 * lo, match w.2, hi with
      | some 0, _ => some 0
      | some n, some h => some (n * h)
      | _, _ => none)
  | .reference id _ _ => (groups.lookup id).getD (0, some 0)
  | .ahead _ _ => (0, some 0)
  | .behind _ _ _ => (0, some 0)
  | .atomic body => body.width groups
  | .ifGroup _ yes no => Width.either (yes.width groups) (no.width groups)

/-- The width of nodes in a row. -/
def widthOfAll (groups : List (Nat × Width)) : List Node → Width
  | [] => (0, some 0)
  | n :: ns => Width.add (n.width groups) (widthOfAll groups ns)

/-- The width of one of several nodes, if there are any. -/
def widthOfAny (groups : List (Nat × Width)) : List Node → Option Width
  | [] => none
  | n :: ns =>
    let w := n.width groups
    some (match widthOfAny groups ns with
      | some v => Width.either w v
      | none => w)

end

end WizardLogic.Regex
