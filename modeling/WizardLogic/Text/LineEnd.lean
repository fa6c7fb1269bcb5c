/-!
# Line ends

A line of a file ends with a line feed, a carriage return or both. Reading a file as text leaves
line feeds only.
-/

namespace WizardLogic.Text

/-- The characters of a file with every line end in its short form. -/
def shortLineEnds : List Char → List Char
  | [] => []
  | '\r' :: '\n' :: rest => '\n' :: shortLineEnds rest
  | '\r' :: rest => '\n' :: shortLineEnds rest
  | c :: rest => c :: shortLineEnds rest

end WizardLogic.Text
