import WizardLogic.Settings

/-!
# Directory paths

The path of a directory is kept in a normal form: no part of it is empty or a single dot, since
such parts lead nowhere. Parts that lead upwards stay. A path that starts at the root keeps its
slash, and one that starts with exactly two slashes keeps both.
-/

namespace WizardLogic.Path

/-- The parts between the slashes. -/
def parts : List Char → List (List Char)
  | [] => [[]]
  | c :: cs =>
    if c = '/' then [] :: parts cs
    else match parts cs with
      | [] => [[c]]
      | p :: ps => (c :: p) :: ps

/-- The slashes that a path keeps at its start. -/
def root (cs : List Char) : List Char :=
  match cs.takeWhile (· = '/') with
  | [] => []
  | ['/', '/'] => ['/', '/']
  | _ => ['/']

/-- The parts that lead somewhere. -/
def steps (cs : List Char) : List (List Char) := (parts cs).filter fun p => p != [] && p != ['.']

/-- The normal form of a path. -/
def normalize (path : String) : String :=
  let cs := path.toList
  let body := List.intercalate ['/'] (steps cs)
  let all := root cs ++ body
  if all.isEmpty then "." else String.ofList all

/-- The path of a file in a directory. -/
def inDirectory (directory file : String) : String :=
  if directory = "." then file
  else if directory.toList.getLast? = some '/' then directory ++ file
  else directory ++ "/" ++ file

/-- The directory of a store: the one that is given, or else that of the settings, or else the
default. -/
def storeDirectory (given : Value) (settings : Entries Value) : String :=
  let named : Value → Option String
    | .str s => if s.isEmpty then none else some s
    | _ => none
  let setting := (settings.get? (.str "wizards_dir")).getD .null
  normalize (((named given).or (named setting)).getD Settings.defaultDirectory)

end WizardLogic.Path
