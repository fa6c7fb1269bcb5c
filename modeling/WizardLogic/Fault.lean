/-!
# Faults

A fault is a failure that no rule of the document language foresees: a value of the wrong kind
where the evaluation needs another, a number out of range, a handler that gives up. The engine's
own errors (`WizardLogic.Error`) say what is wrong with a document; a fault only has a kind.
-/

namespace WizardLogic

/-- The kinds of fault. -/
inductive Fault
  /-- An operation met a value of a kind it is not defined for. -/
  | wrongKind
  /-- A member was asked of a value that has none of that name. -/
  | noMember
  /-- A value of the right kind is not admissible. -/
  | badValue
  /-- A key that must be present is absent. -/
  | noKey
  /-- A position that must exist does not. -/
  | noPosition
  /-- A name was used that has no meaning at that point. -/
  | unboundName
  /-- A division by zero. -/
  | divisionByZero
  /-- A number is too large for the operation. -/
  | overflow
  /-- The evaluation is nested too deeply. -/
  | tooDeep
  /-- A condition that must hold does not. -/
  | assertion
  /-- A custom handler gave up. -/
  | handler
  /-- A collection has changed its size while it was gone through, or an empty one was given where
  a choice has to be made. -/
  | unsteady
  /-- What was made of a template cannot be carried out: a parameter or a named argument is given
  twice, or loops are nested too deeply. -/
  | malformed
  /-- An encoding is not known. -/
  | noEncoding
  /-- A file does not exist. -/
  | noFile
  /-- A file is a directory. -/
  | isDirectory
  /-- Bytes are not text in the expected encoding. -/
  | undecodable
deriving DecidableEq, Repr, Inhabited

namespace Fault

/-- The name of a kind of fault, as results and messages show it. -/
def label : Fault → String
  | wrongKind => "TypeError"
  | noMember => "AttributeError"
  | badValue => "ValueError"
  | noKey => "KeyError"
  | noPosition => "IndexError"
  | unboundName => "NameError"
  | divisionByZero => "ZeroDivisionError"
  | overflow => "OverflowError"
  | tooDeep => "RecursionError"
  | assertion => "AssertionError"
  | handler => "RuntimeError"
  | unsteady => "RuntimeError"
  | malformed => "SyntaxError"
  | noEncoding => "LookupError"
  | noFile => "FileNotFoundError"
  | isDirectory => "IsADirectoryError"
  | undecodable => "UnicodeDecodeError"

end Fault

end WizardLogic
