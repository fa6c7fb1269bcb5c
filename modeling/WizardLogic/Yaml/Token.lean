/-!
# YAML tokens

What a YAML text consists of: marks for the structure of the text, properties of nodes and scalars.
Where a block begins or ends is told by indentation, and the tokens say it outright.
-/

namespace WizardLogic.Yaml

/-- A tag as it is written: with a handle that a directive explains, or in full. -/
structure TagName where
  handle : Option String
  rest : String
deriving DecidableEq, Repr

/-- A token. -/
inductive Token
  | documentStart
  | documentEnd
  /-- The version that a text claims to be written in. -/
  | versionDirective (major : Nat)
  /-- What a handle stands for. -/
  | tagDirective (handle meaning : String)
  /-- A directive that is not known and says nothing. -/
  | otherDirective
  | blockSequenceStart
  | blockMappingStart
  | blockEnd
  | flowSequenceStart
  | flowSequenceEnd
  | flowMappingStart
  | flowMappingEnd
  /-- The mark in front of an item of a block. -/
  | blockEntry
  /-- The mark between items in brackets. -/
  | flowEntry
  | key
  | value
  | alias (name : String)
  | anchor (name : String)
  | tag (name : TagName)
  /-- A scalar; `plain` when it is written without quotes. -/
  | scalar (text : String) (plain : Bool)
deriving DecidableEq, Repr, Inhabited

end WizardLogic.Yaml
