import WizardLogic.Fault
import WizardLogic.Text.Blank
import WizardLogic.Text.LineEnd

/-!
# Environment files

An environment file sets variables, one binding a line: a name, an equals sign and a value. A value
in quotes may contain line breaks and escapes; one without ends at the end of its line or at a
comment that white space precedes. A name without an equals sign is bound to nothing. A line that
is not a binding is passed over.

Values may refer to other variables, as a name in braces behind a dollar sign, with a default that
holds where the variable is not set (`interpolate`). The file never changes a variable that the
environment has already (`applyTo`).
-/

namespace WizardLogic.EnvironmentFile

/-- Variables and their values. -/
abbrev Environment := List (String × String)

/-- A name, and the value it is bound to, if any. -/
abbrev Binding := String × Option (List Char)

/-! ### Bindings -/

/-- White space within a line. -/
def isInlineBlank (c : Char) : Bool := Text.isBlank c && c != '\n'

/-- What follows the white space within a line. -/
def skipBlanks (cs : List Char) : List Char := cs.dropWhile isInlineBlank

/-- What follows the end of the line. -/
def skipLine (cs : List Char) : List Char := (cs.dropWhile (· != '\n')).drop 1

/-- What follows the word that may stand in front of a binding. -/
def skipExport (cs : List Char) : List Char :=
  match "export".toList.isPrefixOf cs, cs.drop 6 with
  | true, c :: rest => if isInlineBlank c then skipBlanks rest else cs
  | _, _ => cs

/-- Whether a character can stand in a name without quotes. -/
def isNameChar (c : Char) : Bool := c != '=' && c != '#' && !Text.isBlank c

/-- The contents of a quoted text after the opening quote, and what follows the closing one. A
quote behind a backslash does not close the text, unless no other one does: then the last one
does. -/
def quoted? (quote : Char) : List Char → Option (List Char × List Char)
  | [] => none
  | '\\' :: c :: rest =>
    if c = quote then
      match quoted? quote rest with
      | some (body, after) => some ('\\' :: c :: body, after)
      | none => some (['\\'], rest)
    else if c = '\\' then
      (quoted? quote (c :: rest)).map fun (body, after) => ('\\' :: body, after)
    else (quoted? quote rest).map fun (body, after) => ('\\' :: c :: body, after)
  | c :: rest =>
    if c = quote then some ([], rest)
    else (quoted? quote rest).map fun (body, after) => (c :: body, after)

/-- The character that an escape stands for in a text in double quotes. -/
def escape? : Char → Option Char
  | '\\' => some '\\'
  | '\'' => some '\''
  | '"' => some '"'
  | 'a' => some '\x07'
  | 'b' => some '\x08'
  | 'f' => some '\x0c'
  | 'n' => some '\n'
  | 'r' => some '\r'
  | 't' => some '\t'
  | 'v' => some '\x0b'
  | _ => none

/-- The character that an escape stands for in a text in single quotes. -/
def quoteEscape? : Char → Option Char
  | '\\' => some '\\'
  | '\'' => some '\''
  | _ => none

/-- Replaces the escapes of a text. -/
def unescape (escape? : Char → Option Char) : List Char → List Char
  | [] => []
  | '\\' :: c :: rest =>
    match escape? c with
    | some d => d :: unescape escape? rest
    | none => '\\' :: unescape escape? (c :: rest)
  | c :: rest => c :: unescape escape? rest

/-- A line up to a comment that white space precedes. -/
def dropComment : List Char → List Char
  | [] => []
  | c :: rest =>
    if Text.isBlank c && ((c :: rest).dropWhile Text.isBlank).head? = some '#' then []
    else c :: dropComment rest

/-- The name of a binding, if there is one on the line at all, and what follows it; none for what
cannot be a name. -/
def name? : List Char → Option (Option String × List Char)
  | '#' :: rest => some (none, '#' :: rest)
  | '\'' :: rest =>
    let body := rest.takeWhile (· != '\'')
    match rest.dropWhile (· != '\'') with
    | _ :: after => if body.isEmpty then none else some (some (String.ofList body), after)
    | [] => none
  | cs =>
    let body := cs.takeWhile isNameChar
    if body.isEmpty then none else some (some (String.ofList body), cs.dropWhile isNameChar)

/-- The value of a binding and what follows it. -/
def value? : List Char → Option (List Char × List Char)
  | '\'' :: rest =>
    (quoted? '\'' rest).map fun (body, after) => (unescape quoteEscape? body, after)
  | '"' :: rest => (quoted? '"' rest).map fun (body, after) => (unescape escape? body, after)
  | cs =>
    some (Text.stripRight (dropComment (cs.takeWhile (· != '\n'))), cs.dropWhile (· != '\n'))

/-- What follows the end of a binding: nothing but a comment may stand before the end of its
line. -/
def endOfBinding? (cs : List Char) : Option (List Char) :=
  let rest := match skipBlanks cs with
    | '#' :: comment => comment.dropWhile (· != '\n')
    | rest => rest
  match rest with
  | [] => some []
  | '\n' :: after => some after
  | _ => none

/-- The value behind a name, none where no equals sign follows, and what follows it. -/
def assigned? (cs : List Char) : Option (Option (List Char) × List Char) :=
  match skipBlanks cs with
  | '=' :: rest => (value? (skipBlanks rest)).map fun (v, after) => (some v, after)
  | rest => some (none, rest)

/-- The place in a text where a binding that is not well formed stops being read: what is left
there. -/
def stopsAt (cs : List Char) : List Char :=
  match name? cs with
  | none => cs
  | some (_, afterName) =>
    match assigned? afterName with
    | none => skipBlanks ((skipBlanks afterName).drop 1)
    | some (_, afterValue) => afterValue

/-- A binding that is well formed, and what follows it. -/
def binding? (cs : List Char) : Option (Option Binding × List Char) := do
  let (name, afterName) ← name? cs
  let (value, afterValue) ← assigned? afterName
  let rest ← endOfBinding? afterValue
  return (name.map fun n => (n, value), rest)

/-- All bindings of a text, in order. -/
def bindingsOf (cs : List Char) : List Binding :=
  match cs.dropWhile Text.isBlank with
  | [] => []
  | c :: body =>
    let start := skipExport (c :: body)
    let (found, rest) := match binding? start with
      | some r => r
      | none => (none, skipLine (stopsAt start))
    if rest.length < cs.length then found.toList ++ bindingsOf rest else found.toList
termination_by cs.length

/-! ### Values -/

/-- A reference to a variable, behind the dollar sign and brace: its name, its default, and what
follows it. -/
def reference? (cs : List Char) : Option (String × String × List Char) :=
  let name := cs.takeWhile fun c => c != '\x7d' && c != ':'
  match cs.dropWhile fun c => c != '\x7d' && c != ':' with
  | '\x7d' :: after => some (String.ofList name, "", after)
  | ':' :: '-' :: rest =>
    match rest.dropWhile (· != '\x7d') with
    | _ :: after =>
      some (String.ofList name, String.ofList (rest.takeWhile (· != '\x7d')), after)
    | [] => none
  | _ => none

/-- Replaces the references of a value. -/
def interpolate (lookUp : String → Option String) : Nat → List Char → List Char
  | 0, cs => cs
  | _, [] => []
  | n + 1, '$' :: '\x7b' :: rest =>
    match reference? rest with
    | some (name, absent, after) =>
      ((lookUp name).getD absent).toList ++ interpolate lookUp n after
    | none => '$' :: interpolate lookUp n ('\x7b' :: rest)
  | n + 1, c :: rest => c :: interpolate lookUp n rest

/-- Writes a variable, in the place of an earlier one of the same name. -/
def set (name : String) (value : Option String) :
    List (String × Option String) → List (String × Option String)
  | [] => [(name, value)]
  | (n, v) :: rest =>
    if n = name then (n, value) :: rest else (n, v) :: set name value rest

/-- What a variable stands for in a value of the file: what the environment says, or else what the
file has said so far. A name that the file has bound to nothing stands for the empty text. -/
def meaning (environment : Environment) (file : List (String × Option String)) (name : String) :
    Option String :=
  match environment.lookup name with
  | some v => some v
  | none => (file.lookup name).map fun v => v.getD ""

/-- The variables that bindings set, with references replaced. -/
def bound (environment : Environment) (bindings : List Binding) :
    List (String × Option String) :=
  bindings.foldl
    (fun file (name, value) =>
      let text := value.map fun cs =>
        String.ofList (interpolate (meaning environment file) cs.length cs)
      set name text file)
    []

/-- Whether an environment can hold a variable. -/
def isAdmissible (name value : String) : Bool :=
  !name.toList.contains '=' && !name.toList.contains '\x00' && !value.toList.contains '\x00'

/-- Adds a variable to an environment that does not have it. -/
def addVariable (environment : Environment) (entry : String × Option String) :
    Except Fault Environment :=
  match environment.lookup entry.1, entry.2 with
  | none, some value =>
    if isAdmissible entry.1 value then .ok (environment ++ [(entry.1, value)])
    else .error .badValue
  | _, _ => .ok environment

/-- **An environment with the variables that a file adds.** -/
def applyTo (environment : Environment) (file : String) : Except Fault Environment :=
  (bound environment (bindingsOf (Text.shortLineEnds file.toList))).foldlM addVariable
    environment

/-- An environment beside a file, which may be missing. -/
def extend (environment : Environment) : Option String → Except Fault Environment
  | some file => applyTo environment file
  | none => .ok environment

/-- The text of a file in UTF-8. -/
def decode (bytes : ByteArray) : Except Fault String :=
  match String.fromUTF8? bytes with
  | some text => .ok text
  | none => .error .undecodable

end WizardLogic.EnvironmentFile
