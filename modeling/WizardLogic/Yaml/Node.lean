import WizardLogic.Yaml.Scanner
import WizardLogic.Yaml.Timestamp

/-!
# The node of a YAML document

A document is a tree of scalars, sequences and mappings. A node may be anchored under a name and
stand, as a whole, wherever an alias of that name follows; it cannot stand inside itself. Nodes that
are missing where one could be are empty scalars.

`Node.ofTokens?` reads the tokens of a text that holds one document at most. Each function reads
what its name says from the tokens ahead; the numbers bound how deeply they call each other, and
since every list reads a token before it goes on, three for each token are enough.
-/

namespace WizardLogic.Yaml

/-- A node. -/
inductive Node
  | scalar (tag : Tag) (text : String)
  | sequence (tag : Tag) (items : List Node)
  | mapping (tag : Tag) (entries : List (Node × Node))

namespace Node

/-- What stands where nothing is written. -/
def empty : Node := scalar .null ""

/-- The tag of a scalar. A lone exclamation mark asks for the spelling to decide. -/
def scalarTag (name : Option String) (plain : Bool) (text : String) : Tag :=
  match name with
  | none => if plain then .ofSpelling text else .text
  | some name => if name = "!" then .ofSpelling text else .ofName name

/-- The tag of a collection whose own kind is given. -/
def collectionTag (own : Tag) (name : Option String) : Tag :=
  match name with
  | none => own
  | some name => if name = "!" then own else .ofName name

/-- What is known while nodes are read. -/
structure Reading where
  /-- The tokens that are ahead. -/
  tokens : List Token
  /-- What the handles of tags stand for. -/
  handles : List (String × String)
  /-- The anchored nodes; one that is still being read is missing. -/
  anchors : List (String × Option Node) := []

/-- Reading from tokens. -/
abbrev Read := StateT Reading (Except Failure)

namespace Read

/-- Fails because the text is not YAML. -/
def malformed {α : Type} : Read α := throw Failure.malformed

/-- The next token. -/
def peek : Read (Option Token) := do return (← get).tokens.head?

/-- Goes on behind the next token. -/
def advance : Read Unit := modify fun s => { s with tokens := s.tokens.tail }

/-- Goes on behind a token, if it is the next one. -/
def accept (t : Token) : Read Bool := do
  if (← peek) = some t then
    advance
    return true
  else return false

/-- Whether an item of a collection in brackets may follow: the first one does so at once, any
other one behind a comma. -/
def separated (first : Bool) : Read Bool :=
  if first then pure true else accept .flowEntry

/-- Whether the next token is one of some, or there is none. -/
def atOne (ts : List Token) : Read Bool := do
  match ← peek with
  | some t => return ts.contains t
  | none => return true

/-! ### Properties of nodes -/

/-- The name of a tag in full. -/
def tagName (name : TagName) : Read String := do
  match name.handle with
  | none => return name.rest
  | some handle =>
    match (← get).handles.lookup handle with
    | some meaning => return meaning ++ name.rest
    | none => malformed

/-- The name of the anchor that stands here, if one does. -/
def anchor? : Read (Option String) := do
  match ← peek with
  | some (.anchor name) =>
    advance
    return some name
  | _ => return none

/-- The name of the tag that stands here, if one does. -/
def tag? : Read (Option TagName) := do
  match ← peek with
  | some (.tag name) =>
    advance
    return some name
  | _ => return none

/-- The anchor and the tag of a node, in either order. -/
def properties : Read (Option String × Option String) := do
  let before ← anchor?
  let tag ← tag?
  let anchor ← if before.isSome then pure before else if tag.isSome then anchor? else pure none
  match tag with
  | some name => return (anchor, some (← tagName name))
  | none => return (anchor, none)

/-- Announces an anchored node. -/
def announce (anchor : Option String) : Read Unit := do
  match anchor with
  | none => return ()
  | some name =>
    if ((← get).anchors.lookup name).isSome then malformed
    else modify fun s => { s with anchors := (name, none) :: s.anchors }

/-- Keeps an anchored node. -/
def keep (anchor : Option String) (node : Node) : Read Unit := do
  match anchor with
  | none => return ()
  | some name => modify fun s => { s with anchors := (name, some node) :: s.anchors }

/-- The node of an alias. -/
def nodeOf (name : String) : Read Node := do
  match (← get).anchors.lookup name with
  | some (some node) => return node
  | _ => malformed

/-! ### Nodes -/

mutual

/-- A node. Only outside of brackets it may be a block, and only behind the mark of a key or a value
a list of items that are indented no more than the mark. -/
def node (inBlock besideKey : Bool) : Nat → Read Node
  | 0 => malformed
  | n + 1 => do
    match ← peek with
    | some (.alias name) =>
      advance
      nodeOf name
    | _ =>
      let (anchor, tag) ← properties
      announce anchor
      let found ← content inBlock besideKey (anchor.isSome || tag.isSome) tag n
      keep anchor found
      return found

/-- A node behind its properties. It may be missing if there are properties. -/
def content (inBlock besideKey optional : Bool) (tag : Option String) : Nat → Read Node
  | 0 => malformed
  | n + 1 => do
    match ← peek with
    | some (.scalar text plain) =>
      advance
      return .scalar (scalarTag tag plain text) text
    | some .flowSequenceStart =>
      advance
      return .sequence (collectionTag .sequence tag) (← flowItems true n)
    | some .flowMappingStart =>
      advance
      return .mapping (collectionTag .mapping tag) (← flowEntries true n)
    | t =>
      if t = some .blockEntry && besideKey then
        return .sequence (collectionTag .sequence tag) (← besideItems n)
      else if t = some .blockSequenceStart && inBlock then
        advance
        return .sequence (collectionTag .sequence tag) (← blockItems n)
      else if t = some .blockMappingStart && inBlock then
        advance
        return .mapping (collectionTag .mapping tag) (← blockEntries n)
      else if optional then return .scalar (scalarTag tag true "") ""
      else malformed

/-- A node, or nothing where one of some tokens follows. -/
def nodeBefore (inBlock besideKey : Bool) (ends : List Token) : Nat → Read Node
  | 0 => malformed
  | n + 1 => do
    match ← peek with
    | some t => if ends.contains t then return empty else node inBlock besideKey n
    | none => malformed

/-- The items of a block, up to its end. -/
def blockItems : Nat → Read (List Node)
  | 0 => malformed
  | n + 1 => do
    if ← accept .blockEntry then
      let item ← nodeBefore true false [.blockEntry, .blockEnd] n
      return item :: (← blockItems n)
    else if ← accept .blockEnd then return []
    else malformed

/-- The items that are indented no more than a mark, up to something else. -/
def besideItems : Nat → Read (List Node)
  | 0 => malformed
  | n + 1 => do
    if ← accept .blockEntry then
      let item ← nodeBefore true false [.blockEntry, .key, .value, .blockEnd] n
      return item :: (← besideItems n)
    else return []

/-- The value of an entry, if a mark of it follows. -/
def valueBefore (inBlock : Bool) (ends : List Token) : Nat → Read Node
  | 0 => malformed
  | n + 1 => do
    if ← accept .value then nodeBefore inBlock inBlock ends n else return empty

/-- The entries of a block, up to its end. -/
def blockEntries : Nat → Read (List (Node × Node))
  | 0 => malformed
  | n + 1 => do
    if ← accept .key then
      let key ← nodeBefore true true [.key, .value, .blockEnd] n
      let value ← valueBefore true [.key, .value, .blockEnd] n
      return (key, value) :: (← blockEntries n)
    else if ← accept .blockEnd then return []
    else malformed

/-- The items in brackets, up to the closing one; an item behind a mark of a key is a mapping of its
own. -/
def flowItems (first : Bool) : Nat → Read (List Node)
  | 0 => malformed
  | n + 1 => do
    if ← accept .flowSequenceEnd then return []
    else if ← separated first then
      if ← accept .flowSequenceEnd then return []
      else
        let item ←
          if ← accept .key then do
            let key ← nodeBefore false false [.value, .flowEntry, .flowSequenceEnd] n
            let value ← valueBefore false [.flowEntry, .flowSequenceEnd] n
            pure (.mapping .mapping [(key, value)])
          else node false false n
        return item :: (← flowItems false n)
    else malformed

/-- The entries in braces, up to the closing one; a node without mark is a key without value. -/
def flowEntries (first : Bool) : Nat → Read (List (Node × Node))
  | 0 => malformed
  | n + 1 => do
    if ← accept .flowMappingEnd then return []
    else if ← separated first then
      if ← accept .flowMappingEnd then return []
      else
        let entry ←
          if ← accept .key then do
            let key ← nodeBefore false false [.value, .flowEntry, .flowMappingEnd] n
            pure (key, ← valueBefore false [.flowEntry, .flowMappingEnd] n)
          else do
            pure (← node false false n, empty)
        return entry :: (← flowEntries false n)
    else malformed

end

/-! ### Documents -/

/-- Goes on behind marks of the end of a document. -/
def skipDocumentEnds : Read Unit :=
  modify fun s => { s with tokens := s.tokens.dropWhile (· = .documentEnd) }

/-- The directives in front of a document, given whether the version is known and the handles that
are explained. -/
def directives (versioned : Bool) (handles : List (String × String)) :
    Nat → Read (List (String × String))
  | 0 => malformed
  | n + 1 => do
    match ← peek with
    | some (.versionDirective major) =>
      if versioned || major != 1 then malformed
      else
        advance
        directives true handles n
    | some (.tagDirective handle meaning) =>
      if (handles.lookup handle).isSome then malformed
      else
        advance
        directives versioned ((handle, meaning) :: handles) n
    | some .otherDirective =>
      advance
      directives versioned handles n
    | _ => return handles

/-- Whether a directive is next. -/
def atDirective : Read Bool := do
  match ← peek with
  | some (.versionDirective _) | some (.tagDirective _ _) | some .otherDirective => return true
  | _ => return false

/-- The document that begins with a mark, and perhaps with directives. -/
def markedDocument (n : Nat) : Read Node := do
  let handles ← directives false [] n
  modify fun s => { s with handles := handles ++ s.handles }
  if ← accept .documentStart then
    if (← atDirective) || (← atOne [.documentStart, .documentEnd]) then return empty
    else node true false n
  else malformed

/-- The only document, or nothing where there is none. -/
def document (n : Nat) : Read Node := do
  match ← peek with
  | none => return empty
  | some t =>
    let found ←
      if (← atDirective) || t = .documentStart then markedDocument n else node true false n
    skipDocumentEnds
    if (← get).tokens.isEmpty then return found else malformed

end Read

/-- What the handles of tags stand for unless directives say otherwise. -/
def commonHandles : List (String × String) := [("!", "!"), ("!!", Tag.commonStart)]

/-- **The node that tokens write,** an empty scalar if there are none. -/
def ofTokens? (ts : List Token) : Except Failure Node := do
  let (found, _) ← (StateT.run (Read.document (3 * ts.length + 3)) ⟨ts, commonHandles, []⟩ :
    Except Failure (Node × Reading))
  return found

end Node

end WizardLogic.Yaml
