import WizardLogic.Regex.Node

/-!
# Matching

A node is matched at a place of a text, and what remains of the expression is a continuation: a
node that can match in several ways hands each of them on until one succeeds. A repetition does
not go on after a round that matched nothing, so the length of the text bounds its rounds.

`Node.search` asks whether an expression matches anywhere in a text.
-/

namespace WizardLogic.Regex

/-- A place in a text, and the texts of the groups matched so far. -/
structure Place where
  /-- The characters before, nearest first. -/
  before : List Char
  /-- The characters that follow. -/
  rest : List Char
  position : Nat
  groups : List (Nat × List Char)

namespace Place

/-- The place behind the next character, and that character. -/
def next? (p : Place) : Option (Char × Place) :=
  match p.rest with
  | c :: rest =>
    some (c, { p with before := c :: p.before, rest := rest, position := p.position + 1 })
  | [] => none

/-- The place so many characters further on. -/
def forward : Nat → Place → Option Place
  | 0, p => some p
  | n + 1, p => p.next?.bind fun (_, p) => forward n p

/-- The place so many characters back. -/
def back : Nat → Place → Option Place
  | 0, p => some p
  | n + 1, p =>
    match p.before with
    | c :: before =>
      back n { p with before := before, rest := c :: p.rest, position := p.position - 1 }
    | [] => none

/-- Whether this is a place at the start of the text, or of a line. -/
def isStart (lines : Bool) (p : Place) : Bool :=
  match p.before with
  | [] => true
  | c :: _ => lines && c = '\n'

/-- Whether this is a place at the end of the text or before a last line end, or at the end of a
line. -/
def isFinish (lines : Bool) (p : Place) : Bool :=
  match p.rest with
  | [] => true
  | ['\n'] => true
  | c :: _ => lines && c = '\n'

/-- Whether exactly one of the characters around the place is a word character, or not. Neither is
so in an empty text. -/
def isBoundary (negated ascii : Bool) (p : Place) : Bool :=
  let word (cs : List Char) : Bool := cs.head?.any (Category.word.holds ascii)
  (!p.before.isEmpty || !p.rest.isEmpty) && (word p.before != word p.rest) != negated

/-- The place behind a text that follows, up to what `fold` makes the same. -/
def skipText (fold : Char → Char) : List Char → Place → Option Place
  | [], p => some p
  | c :: cs, p =>
    match p.next? with
    | some (d, p) => if fold c = fold d then skipText fold cs p else none
    | none => none

end Place

/-- What remains to be matched. -/
abbrev Rest := Place → Option Place

/-- Further rounds of a repetition after `count` of them, the last of which started at `last`. -/
def repeatFrom (body : Place → Rest → Option Place) (lo : Nat) (hi : Option Nat) (lazy : Bool) :
    Nat → Nat → Option Nat → Place → Rest → Option Place
  | 0, _, _, p, k => k p
  | fuel + 1, count, last, p, k =>
    if count < lo then
      body p fun q => repeatFrom body lo hi lazy fuel (count + 1) last q k
    else
      let again (_ : Unit) : Option Place :=
        if hi = some count || last = some p.position then none
        else body p fun q => repeatFrom body lo hi lazy fuel (count + 1) (some p.position) q k
      if lazy then
        match k p with
        | some q => some q
        | none => again ()
      else match again () with
        | some q => some q
        | none => k p

mutual

/-- Matches a node at a place, and then what remains. -/
def Node.run : Node → Place → Rest → Option Place
  | .never, _, _ => none
  | .char c ignoreCase, p, k =>
    match p.next? with
    | some (d, q) =>
      if (if ignoreCase then sameIgnoringCase false c d else c = d) then k q else none
    | none => none
  | .any lineEnds, p, k =>
    match p.next? with
    | some (c, q) => if lineEnds || c != '\n' then k q else none
    | none => none
  | .set negated items ignoreCase ascii, p, k =>
    match p.next? with
    | some (c, q) =>
      if items.any (SetItem.holds ignoreCase ascii c) != negated then k q else none
    | none => none
  | .start lines, p, k => if p.isStart lines then k p else none
  | .finish lines, p, k => if p.isFinish lines then k p else none
  | .textEnd, p, k => if p.rest.isEmpty then k p else none
  | .boundary negated ascii, p, k => if p.isBoundary negated ascii then k p else none
  | .sequence nodes, p, k => runAll nodes p k
  | .alternatives nodes, p, k => runAny nodes p k
  | .group id body, p, k =>
    body.run p fun q =>
      let text := p.rest.take (q.position - p.position)
      k { q with groups := (id, text) :: q.groups.filter fun g => g.1 != id }
  | .repetition lo hi mode body, p, k =>
    let fuel := lo + p.rest.length + 2
    match mode with
    | .greedy => repeatFrom (fun p k => body.run p k) lo hi false fuel 0 none p k
    | .lazy => repeatFrom (fun p k => body.run p k) lo hi true fuel 0 none p k
    | .possessive =>
      match repeatFrom (fun p k => body.run p k) lo hi false fuel 0 none p some with
      | some q => k q
      | none => none
  | .reference id ignoreCase ascii, p, k =>
    match p.groups.lookup id with
    | some text =>
      match p.skipText (if ignoreCase then lowerCase ascii else fun c => c) text with
      | some q => k q
      | none => none
    | none => none
  | .ahead negated body, p, k =>
    match body.run p some with
    | some q => if negated then none else k { p with groups := q.groups }
    | none => if negated then k p else none
  | .behind negated width body, p, k =>
    match p.back width with
    | some b =>
      match body.run b some with
      | some q => if negated then none else k { p with groups := q.groups }
      | none => if negated then k p else none
    | none => if negated then k p else none
  | .atomic body, p, k =>
    match body.run p some with
    | some q => k q
    | none => none
  | .ifGroup id yes no, p, k =>
    if (p.groups.lookup id).isSome then yes.run p k else no.run p k

/-- Matches nodes in a row. -/
def runAll : List Node → Place → Rest → Option Place
  | [], p, k => k p
  | n :: ns, p, k => n.run p fun q => runAll ns q k

/-- Matches one of several nodes, the first that leads to success. -/
def runAny : List Node → Place → Rest → Option Place
  | [], _, _ => none
  | n :: ns, p, k =>
    match n.run p k with
    | some q => some q
    | none => runAny ns p k

end

/-- Whether an expression matches at some place of the characters that follow. -/
def searchFrom (node : Node) (before : List Char) (position : Nat) : List Char → Bool
  | [] => (node.run ⟨before, [], position, []⟩ some).isSome
  | c :: cs =>
    (node.run ⟨before, c :: cs, position, []⟩ some).isSome ||
      searchFrom node (c :: before) (position + 1) cs

/-- Whether an expression matches somewhere in a text. -/
def Node.search (node : Node) (text : String) : Bool := searchFrom node [] 0 text.toList

end WizardLogic.Regex
