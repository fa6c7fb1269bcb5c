import WizardLogic.Number.Arith
import WizardLogic.Value
import WizardLogic.Yaml.Node

/-!
# What a node stands for

The value of a node, by its tag: a scalar is read as the tag demands, which fails if it is spelled
otherwise, and a collection becomes a list or an object. Under the key `<<` a mapping names one or
more others whose entries come before its own and give way to them; of several, the first wins.

Values have no kinds for points in time, bytes and sets. A point in time becomes its written form,
bytes the text that they encode, and a set the list of its members.
-/

namespace WizardLogic.Yaml

/-! ### Numbers -/

/-- Reads digits in a base of two, eight or sixteen. -/
def digitsIn (base : Nat) : List Char → Except Failure Nat
  | [] => throw (.fault .badValue)
  | c :: rest =>
    (c :: rest).foldlM (fun n d =>
      match Scan.escapeDigit? d with
      | some k => if k < base then pure (n * base + k) else throw (Failure.fault .badValue)
      | none => throw (Failure.fault .badValue)) 0

/-- Reads a decimal integer. -/
def decimal (cs : List Char) : Except Failure Int :=
  match Number.readInt? cs with
  | some n => pure n
  | none => throw (.fault .badValue)

/-- Takes the sign of a number, which must not be empty. -/
def signed (cs : List Char) : Except Failure (Bool × List Char) :=
  match cs with
  | [] => throw (.fault .noPosition)
  | _ => pure (cs.head? = some '-', Tag.dropSign cs)

/-- The integer that a scalar spells. -/
def integer (text : String) : Except Failure Int := do
  let (negative, cs) ← signed (text.toList.filter (· != '_'))
  let n : Int ←
    match cs with
    | [] => throw (Failure.fault .noPosition)
    | ['0'] => pure 0
    | '0' :: 'b' :: rest => Int.ofNat <$> digitsIn 2 rest
    | '0' :: 'x' :: rest => Int.ofNat <$> digitsIn 16 rest
    | '0' :: rest => Int.ofNat <$> digitsIn 8 ('0' :: rest)
    | _ =>
      if cs.contains ':' then do
        let parts ← (Text.split [':'] none cs).mapM decimal
        pure (parts.foldl (fun n k => n * 60 + k) 0)
      else decimal cs
  return if negative then -n else n

/-- The sum of sexagesimal digits, the last of which is first here and counts `unit`. -/
def sexagesimalSum (unit : Int) (sum : Double) : List Double → Except Failure Double
  | [] => pure sum
  | d :: rest =>
    match Double.ofInt? unit with
    | some u => sexagesimalSum (unit * 60) (sum.add (d.mul u)) rest
    | none => throw (.fault .overflow)

/-- Reads a decimal number. -/
def pointed (cs : List Char) : Except Failure Double :=
  match Number.readDouble? cs with
  | some d => pure d
  | none => throw (.fault .badValue)

/-- The floating-point number that a scalar spells. -/
def floating (text : String) : Except Failure Double := do
  let (negative, cs) ← signed ((text.toList.filter (· != '_')).map Char.toLower)
  let word := String.ofList cs
  if word = ".inf" then return .inf negative
  else if word = ".nan" then return .nan
  else
    let d ←
      if cs.contains ':' then do
        let parts ← (Text.split [':'] none cs).mapM pointed
        sexagesimalSum 1 (Double.zero false) parts.reverse
      else pointed cs
    return if negative then d.neg else d

/-! ### Bytes -/

/-- The value of a digit in base sixty-four. -/
def sixtyFour? (c : Char) : Option Nat :=
  if 'A' ≤ c && c ≤ 'Z' then some (c.toNat - 65)
  else if 'a' ≤ c && c ≤ 'z' then some (c.toNat - 71)
  else if c.isDigit then some (c.toNat + 4)
  else if c = '+' then some 62
  else if c = '/' then some 63
  else none

/-- The bytes that characters write in base sixty-four, given how many digits of the last group of
four were read, their value and how many marks of padding follow them; other characters count for
nothing. -/
def bytes? : Nat → Nat → Nat → List Char → Option (List UInt8)
  | position, _, _, [] => if position = 0 then some [] else none
  | position, left, pads, c :: rest =>
    if c = '=' then
      if 2 ≤ position && 4 ≤ position + pads + 1 then some []
      else bytes? position left (if 2 ≤ position then pads + 1 else pads) rest
    else
      match sixtyFour? c with
      | none => bytes? position left pads rest
      | some k =>
        match position with
        | 0 => bytes? 1 k 0 rest
        | 1 => (bytes? 2 (k % 16) 0 rest).map (UInt8.ofNat (left * 4 + k / 16) :: ·)
        | 2 => (bytes? 3 (k % 4) 0 rest).map (UInt8.ofNat (left * 16 + k / 4) :: ·)
        | _ => (bytes? 0 0 0 rest).map (UInt8.ofNat (left * 64 + k) :: ·)

/-- The text whose encoding a scalar writes in base sixty-four. -/
def encodedText (text : String) : Except Failure String :=
  if text.toList.any fun c => 127 < c.toNat then throw .malformed
  else
    match bytes? 0 0 0 text.toList with
    | none => throw .malformed
    | some bytes =>
      match String.fromUTF8? ⟨bytes.toArray⟩ with
      | some s => pure s
      | none => throw (.fault .undecodable)

/-! ### Nodes -/

/-- The value of a scalar. -/
def scalarValue (tag : Tag) (text : String) : Except Failure Value :=
  match tag with
  | .null => pure .null
  | .bool =>
    let word := text.toLower
    if ["yes", "true", "on"].contains word then pure (.bool true)
    else if ["no", "false", "off"].contains word then pure (.bool false)
    else throw (.fault .noKey)
  | .int => Value.int <$> integer text
  | .float => Value.float <$> floating text
  | .timestamp =>
    match Timestamp.ofSpelling? text.toList with
    | some t => if t.exists? then pure (.str t.text) else throw (.fault .badValue)
    | none => throw (.fault .noMember)
  | .text => pure (.str text)
  | .binary => Value.str <$> encodedText text
  | _ => throw .malformed

namespace Node

/-- The tag of a node. -/
def tag : Node → Tag
  | scalar t _ => t
  | sequence t _ => t
  | mapping t _ => t

mutual

/-- The text that stands for a node: that of a scalar, or of the value that a mapping has of its
own. -/
def text? : Node → Option String
  | scalar _ text => some text
  | sequence _ _ => none
  | mapping _ entries => defaultText? entries

/-- The text under the first key that marks a mapping's own value. -/
def defaultText? : List (Node × Node) → Option String
  | [] => none
  | (key, value) :: rest => if key.tag = .default then value.text? else defaultText? rest

end

mutual

/-- The value of a node. -/
def value : Node → Except Failure Value
  | scalar tag text => scalarValue tag text
  | sequence tag items =>
    match tag with
    | .sequence => Value.list <$> values items
    | .pairs => Value.list <$> pairs items
    | _ => throw .malformed
  | mapping tag entries =>
    match tag with
    | .mapping => do return .obj (Entries.ofList (← members entries))
    | .set => do
      return .list ((Entries.keys (Entries.ofList (← members entries))).map Value.ofKey)
    | tag =>
      match defaultText? entries with
      | some text => scalarValue tag text
      | none => throw .malformed

/-- The values of nodes. -/
def values : List Node → Except Failure (List Value)
  | [] => pure []
  | item :: rest => do
    let v ← item.value
    return v :: (← values rest)

/-- The key and the value of each of some mappings that have one entry. -/
def pairs : List Node → Except Failure (List Value)
  | [] => pure []
  | .mapping _ [(key, value)] :: rest => do
    let k ← key.value
    let v ← value.value
    return .list [k, v] :: (← pairs rest)
  | _ => throw .malformed

/-- The entries of a mapping, those it takes over in front. -/
def members (entries : List (Node × Node)) : Except Failure (List (Key × Value)) := do
  return (← inherited entries) ++ (← owned entries)

/-- The entries that a mapping takes over from others. -/
def inherited : List (Node × Node) → Except Failure (List (Key × Value))
  | [] => pure []
  | (key, value) :: rest => do
    if key.tag = .merge then
      let found ←
        match value with
        | .mapping _ entries => members entries
        | .sequence _ sources => allMembers sources
        | .scalar _ _ => throw Failure.malformed
      return found ++ (← inherited rest)
    else inherited rest

/-- The entries of some mappings, those of the last one first. -/
def allMembers : List Node → Except Failure (List (Key × Value))
  | [] => pure []
  | .mapping _ entries :: rest => do
    let found ← members entries
    return (← allMembers rest) ++ found
  | _ => throw .malformed

/-- The entries that a mapping writes itself. -/
def owned : List (Node × Node) → Except Failure (List (Key × Value))
  | [] => pure []
  | (key, value) :: rest => do
    if key.tag = .merge then owned rest
    else
      let k ←
        match key with
        | .scalar .default text => pure (Value.str text)
        | key => key.value
      match k.toKey? with
      | none => throw Failure.malformed
      | some k => do
        let v ← value.value
        return (k, v) :: (← owned rest)

end

end Node

end WizardLogic.Yaml
