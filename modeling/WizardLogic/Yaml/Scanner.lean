import WizardLogic.Yaml.Property
import WizardLogic.Yaml.Scalar

/-!
# The tokens of a YAML text

Most tokens are recognised by their first character. What takes thought are mappings without
brackets, since the mark of a key may be left out: then it is only the colon behind a node that
tells the node is a key, and perhaps that a mapping begins with it. Wherever such a key could begin,
the scanner leaves a numbered *slot* among the tokens; a colon fills the slot of the innermost
candidate, and slots that nothing fills vanish when the tokens are listed (`Piece.tokens`).

A candidate is good for a colon on the same line within `keyReach` characters. One that stands
where its block demands a key has to be followed by a colon.
-/

namespace WizardLogic.Yaml

/-- How far behind the start of a key its colon may be. -/
def keyReach : Nat := 1024

/-- A token, or a slot for the tokens in front of a key. -/
inductive Piece
  | token (t : Token)
  | slot (id : Nat)

/-- The tokens of pieces, given what fills the slots. -/
def Piece.tokens (filled : List (Nat × List Token)) : List Piece → List Token
  | [] => []
  | .token t :: rest => t :: Piece.tokens filled rest
  | .slot id :: rest => (filled.lookup id).getD [] ++ Piece.tokens filled rest

/-- A place where a key may have begun. -/
structure Candidate where
  slot : Nat
  /-- Whether the block demands a key here. -/
  required : Bool
  index : Nat
  line : Nat
  column : Nat

/-- What the scanner knows. -/
structure Scanner where
  cursor : Cursor
  /-- How many brackets are open. -/
  flow : Nat := 0
  /-- The column of the innermost block. -/
  indent : Int := -1
  /-- The columns of the blocks around it. -/
  outer : List Int := []
  /-- Whether a key without mark may begin here. -/
  keyAllowed : Bool := true
  /-- The candidates, by the number of brackets around them. -/
  candidates : List (Nat × Candidate) := []
  slots : Nat := 0
  filled : List (Nat × List Token) := []
  /-- The pieces found, the last one first. -/
  pieces : List Piece := []

/-- A step of the scanner. -/
abbrev Step := StateT Scanner (Except Failure)

namespace Step

/-- Fails because the text is not YAML. -/
def malformed {α : Type} : Step α := throw Failure.malformed

/-- Reads from the text. -/
def read {α : Type} (r : Scan α) : Step α := do
  let s ← get
  let (a, c) ← (r.run s.cursor : Except Failure (α × Cursor))
  set { s with cursor := c }
  return a

/-- Adds a token. -/
def emit (t : Token) : Step Unit := modify fun s => { s with pieces := .token t :: s.pieces }

/-- Says whether a key may begin behind this. -/
def allowKey (b : Bool) : Step Unit := modify fun s => { s with keyAllowed := b }

/-! ### Candidates for keys -/

/-- Drops candidates that are out of reach of a colon. -/
def dropStale : Step Unit := do
  let s ← get
  let stale (k : Candidate) : Bool :=
    k.line != s.cursor.line || s.cursor.index - k.index > keyReach
  if s.candidates.any fun (_, k) => stale k && k.required then malformed
  else set { s with candidates := s.candidates.filter fun (_, k) => !stale k }

/-- Drops the candidate within the same brackets. -/
def dropCandidate : Step Unit := do
  let s ← get
  if s.candidates.any fun (level, k) => level = s.flow && k.required then malformed
  else set { s with candidates := s.candidates.filter fun (level, _) => level != s.flow }

/-- Notes that a key may begin here, if it may. -/
def noteCandidate : Step Unit := do
  if (← get).keyAllowed then
    dropCandidate
    modify fun s =>
      let k : Candidate := {
        slot := s.slots
        required := s.flow = 0 && s.indent = s.cursor.column
        index := s.cursor.index
        line := s.cursor.line
        column := s.cursor.column }
      { s with
        candidates := (s.flow, k) :: s.candidates
        slots := s.slots + 1
        pieces := .slot s.slots :: s.pieces }

/-! ### Indentation -/

/-- Ends the blocks that are indented more than a column. -/
def closeBlocks (column : Int) : Step Unit := do
  let s ← get
  let rec go : Int → List Int → List Piece → Int × List Int × List Piece
    | indent, [], pieces => (indent, [], pieces)
    | indent, next :: outer, pieces =>
      if indent > column then go next outer (.token .blockEnd :: pieces)
      else (indent, next :: outer, pieces)
  if s.flow = 0 then
    let (indent, outer, pieces) := go s.indent s.outer s.pieces
    set { s with indent, outer, pieces }

/-- Begins a block at a column, if it is indented more than the block around it. -/
def openBlock (column : Int) : Step Bool := do
  let s ← get
  if s.indent < column then
    set { s with indent := column, outer := s.indent :: s.outer }
    return true
  else return false

/-- Begins a block here, outside of brackets, where one may begin at all. -/
def openBlockHere (start : Token) : Step Unit := do
  let s ← get
  if s.flow = 0 then
    if !s.keyAllowed then malformed
    else if ← openBlock s.cursor.column then emit start

/-! ### Tokens by kind -/

/-- A mark or directive that stands outside of all blocks. -/
def outside : Step Unit := do
  closeBlocks (-1)
  dropCandidate
  allowKey false

/-- A mark between documents. -/
def separator (t : Token) : Step Unit := do
  outside
  read (Scan.skip 3)
  emit t

/-- An opening bracket. -/
def openFlow (t : Token) : Step Unit := do
  noteCandidate
  modify fun s => { s with flow := s.flow + 1, keyAllowed := true }
  read (Scan.skip 1)
  emit t

/-- A closing bracket. -/
def closeFlow (t : Token) : Step Unit := do
  dropCandidate
  let s ← get
  match s.flow with
  | 0 => malformed
  | flow + 1 =>
    set { s with flow, keyAllowed := false }
    read (Scan.skip 1)
    emit t

/-- The mark between items in brackets. -/
def flowEntry : Step Unit := do
  allowKey true
  dropCandidate
  read (Scan.skip 1)
  emit .flowEntry

/-- The mark in front of an item of a block. -/
def blockEntry : Step Unit := do
  openBlockHere .blockSequenceStart
  allowKey true
  dropCandidate
  read (Scan.skip 1)
  emit .blockEntry

/-- The mark of a key. -/
def keyMark : Step Unit := do
  openBlockHere .blockMappingStart
  allowKey ((← get).flow = 0)
  dropCandidate
  read (Scan.skip 1)
  emit .key

/-- The colon of a value, which may make a key of what stands before it. -/
def valueMark : Step Unit := do
  let s ← get
  match s.candidates.find? fun (level, _) => level = s.flow with
  | some (_, k) =>
    set { s with candidates := s.candidates.filter fun (level, _) => level != s.flow }
    let opens ← if s.flow = 0 then openBlock k.column else pure false
    let found := if opens then [Token.blockMappingStart, .key] else [.key]
    modify fun s => { s with filled := (k.slot, found) :: s.filled, keyAllowed := false }
  | none =>
    openBlockHere .blockMappingStart
    allowKey (s.flow = 0)
    dropCandidate
  read (Scan.skip 1)
  emit .value

/-- A node or property of a node, which may be a key or its beginning. -/
def nodeToken (r : Scan Token) : Step Unit := do
  noteCandidate
  allowKey false
  emit (← read r)

/-- A block of lines. -/
def blockScalar (folded : Bool) : Step Unit := do
  allowKey true
  dropCandidate
  let text ← read (Scan.blockScalar folded (← get).indent)
  emit (.scalar text false)

/-- A plain scalar. -/
def plainScalar : Step Unit := do
  noteCandidate
  let s ← get
  let (text, crossed) ← read (Scan.plainScalar (s.flow != 0) s.indent)
  allowKey crossed
  emit (.scalar text true)

/-! ### The whole text -/

/-- Goes on to where the next token begins. -/
def skipToToken : Nat → Step Unit
  | 0 => return ()
  | n + 1 => do
    read Scan.skipSpaces
    if (← read Scan.peek) = some '#' then read Scan.skipToLineEnd
    let b ← read Scan.lineBreak
    if b.isEmpty then return ()
    else
      if (← get).flow = 0 then allowKey true
      skipToToken n

/-- Whether a plain scalar can begin with a character, given the one behind it. -/
def startsPlain (inFlow : Bool) (c : Char) (following : Option Char) : Bool :=
  !(endsWord (some c) || "-?:,[]\x7b\x7d#&*!|>'\"%@".toList.contains c || c.toNat = 96) ||
    (!endsWord following && (c = '-' || (!inFlow && (c = '?' || c = ':'))))

/-- Finds the next token that begins with a character. -/
def token (c : Char) : Step Unit := do
  let s ← get
  let inFlow := s.flow != 0
  let following := s.cursor.peekAt 1
  let atSeparator := s.cursor.column = 0 && s.cursor.atSeparator
  if c = '%' && s.cursor.column = 0 then
    outside
    emit (← read Scan.directive)
  else if c = '-' && atSeparator then separator .documentStart
  else if c = '.' && atSeparator then separator .documentEnd
  else if c = '[' then openFlow .flowSequenceStart
  else if c = '\x7b' then openFlow .flowMappingStart
  else if c = ']' then closeFlow .flowSequenceEnd
  else if c = '\x7d' then closeFlow .flowMappingEnd
  else if c = ',' then flowEntry
  else if c = '-' && endsWord following then blockEntry
  else if c = '?' && (inFlow || endsWord following) then keyMark
  else if c = ':' && (inFlow || endsWord following) then valueMark
  else if c = '*' then nodeToken (Token.alias <$> Scan.nodeName)
  else if c = '&' then nodeToken (Token.anchor <$> Scan.nodeName)
  else if c = '!' then nodeToken (Token.tag <$> Scan.tagName)
  else if c = '|' && !inFlow then blockScalar false
  else if c = '>' && !inFlow then blockScalar true
  else if c = '\'' then nodeToken ((Token.scalar · false) <$> Scan.quotedScalar false)
  else if c = '"' then nodeToken ((Token.scalar · false) <$> Scan.quotedScalar true)
  else if startsPlain inFlow c following then plainScalar
  else malformed

/-- Finds all tokens that are ahead. -/
def run : Nat → Step Unit
  | 0 => malformed
  | n + 1 => do
    skipToToken ((← get).cursor.rest.length + 1)
    dropStale
    closeBlocks (← get).cursor.column
    match ← read Scan.peek with
    | none =>
      closeBlocks (-1)
      dropCandidate
    | some c =>
      token c
      run n

end Step

/-- Whether a character may stand in YAML text. -/
def isPrintable (c : Char) : Bool :=
  let n := c.toNat
  n = 9 || n = 0xa || n = 0xd || (0x20 ≤ n && n ≤ 0x7e) || n = 0x85 ||
    (0xa0 ≤ n && n ≤ 0xd7ff) || (0xe000 ≤ n && n ≤ 0xfffd) || 0x10000 ≤ n

/-- **The tokens of a text,** whose line ends are in their short form. -/
def Token.ofText? (cs : List Char) : Except Failure (List Token) := do
  if !cs.all isPrintable then throw Failure.malformed
  else
    let cursor : Cursor :=
      match cs with
      | c :: rest => if c = byteOrderMark then ⟨rest, 1, 0, 0⟩ else ⟨cs, 0, 0, 0⟩
      | [] => ⟨[], 0, 0, 0⟩
    let ((), s) ← (StateT.run (Step.run (2 * cs.length + 2)) { cursor } :
      Except Failure (Unit × Scanner))
    return Piece.tokens s.filled s.pieces.reverse

end WizardLogic.Yaml
