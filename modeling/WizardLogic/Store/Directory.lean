import WizardLogic.Document.Reader
import WizardLogic.Json.Printer
import WizardLogic.Store.Basic
import WizardLogic.Store.Path
import WizardLogic.Text.LineEnd
import WizardLogic.Yaml

/-!
# Wizards in files

A store that keeps every wizard in a file of its own in one directory. A file is found by the name
of the wizard and one of three endings, which are tried in order; all files are read as YAML, and
those that the store writes are JSON. Directories with the name of a file are not files and do not
count, except that they cannot be overwritten.

The directory comes into being with the first wizard that is stored.
-/

namespace WizardLogic

/-- What a name in a directory leads to. -/
inductive DirectoryEntry
  | file (text : String)
  | directory
deriving DecidableEq, Repr

/-- Whether the entry is a file. -/
def DirectoryEntry.isFile : DirectoryEntry → Bool
  | file _ => true
  | directory => false

/-- A directory of wizards. -/
structure DirectoryStore where
  /-- The path of the directory. -/
  path : String
  /-- What is in the directory, if it exists. -/
  content : Option (List (String × DirectoryEntry)) := none

namespace DirectoryStore

/-- The endings of files that hold wizards, the preferred one first. -/
def endings : List String := [".json", ".yaml", ".yml"]

/-- What is in the directory. -/
def entries (s : DirectoryStore) : List (String × DirectoryEntry) := s.content.getD []

/-- The path of a file in the directory. -/
def pathOf (s : DirectoryStore) (file : String) : String := Path.inDirectory s.path file

/-- The text of a file, as text is read. -/
def textOf (text : String) : String := String.ofList (Text.shortLineEnds text.toList)

/-- The text of the file under a name. -/
def fileText (s : DirectoryStore) (file : String) : Except Fault String :=
  match s.entries.lookup file with
  | some (.file text) => .ok (textOf text)
  | some .directory => .error .isDirectory
  | none => .error .noFile

/-- The file that holds a wizard, and its text. -/
def find? (s : DirectoryStore) (name : String) : Option (String × String) :=
  endings.findSome? fun ending =>
    match s.entries.lookup (name ++ ending) with
    | some (.file text) => some (name ++ ending, textOf text)
    | _ => none

/-- The wizard that a file describes. -/
def wizardOf (path text : String) : Except Failure Wizard :=
  match Yaml.read text with
  | .error .malformed => .error (Error.documentUnreadable path)
  | .error (.fault f) => .error f
  | .ok document =>
    match document with
    | .obj _ => (Wizard.read document).mapError Failure.error
    | _ => .error (Error.documentNotObject path)

/-- The wizard under a name. -/
def load (s : DirectoryStore) (name : Value) : Except Failure Wizard := do
  let n ← Store.nameOf name
  match s.find? n with
  | none => .error (Error.noWizardIn n s.path)
  | some (file, text) => wizardOf (s.pathOf file) text

/-- Some entries with a file in the place of the one with its name, or at the end. -/
def put (file text : String) : List (String × DirectoryEntry) → List (String × DirectoryEntry)
  | [] => [(file, .file text)]
  | (f, e) :: rest => if f = file then (f, .file text) :: rest else (f, e) :: put file text rest

/-- The store with a wizard under a name. -/
def save (s : DirectoryStore) (name : Value) (w : Wizard) : Except Failure DirectoryStore := do
  let file := (← Store.nameOf name) ++ ".json"
  if s.entries.lookup file = some .directory then .error (.fault .isDirectory)
  else
    let text := Json.print .indented w.jsonDocument
    return { s with content := some (put file text s.entries) }

/-! ### Names -/

/-- The name of a file without its ending and the ending: what follows the last point, unless that
point is the first character or the last. -/
def splitEnding (file : String) : String × String :=
  let cs := file.toList
  let tail := cs.reverse.takeWhile (· != '.')
  let stem := cs.take (cs.length - tail.length - 1)
  if stem.isEmpty || tail.isEmpty || tail.length = cs.length then (file, "")
  else (String.ofList stem, String.ofList ('.' :: tail.reverse))

/-- The name under which a file is listed. -/
def listed? (file : String) (e : DirectoryEntry) : Option String :=
  let (stem, ending) := splitEnding file
  if endings.contains ending && e.isFile then some stem else none

/-- The names in order. -/
def names (s : DirectoryStore) : List String :=
  Store.inOrder (s.entries.filterMap fun (file, e) => listed? file e)

/-- The names of all files and directories in order, if the directory exists. -/
def files? (s : DirectoryStore) : Option (List String) :=
  s.content.map fun es => Store.inOrder (es.map Prod.fst)

instance : Store DirectoryStore := ⟨load, save, names⟩

end DirectoryStore

end WizardLogic
