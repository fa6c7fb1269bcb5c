import WizardLogic.Display
import WizardLogic.Error
import WizardLogic.Number.Reading
import WizardLogic.Settings.EnvironmentFile
import WizardLogic.Text.Case

/-!
# Settings

A setting has a name and the kinds of value it may have. Its value is what the caller says
(`Sources.overrides`), or else what a variable of the environment says, or else its default, or
null. What the caller says has to be of one of the kinds. A variable is text; it is read as the
first of the kinds that accepts it, and stays text when none does.

Every setting is found without regard to the others (`Setting.find`). An environment file is read
before all of them (`Settings.loadBeside`).
-/

namespace WizardLogic

/-- The kinds of value that a setting may have. -/
inductive SettingKind
  | text
  | integer
  | number
  | truth
  /-- Null and nothing else. -/
  | nothing
deriving DecidableEq, Repr

namespace SettingKind

/-- The name of a kind in messages. -/
def name : SettingKind → String
  | text => "str"
  | integer => "int"
  | number => "float"
  | truth => "bool"
  | nothing => "NoneType"

/-- Whether a kind admits a value. Truth values pass as integers, and integers as numbers. -/
def admits : SettingKind → Value → Bool
  | text, .str _ => true
  | integer, .int _ | integer, .bool _ => true
  | number, .float _ | number, .int _ => true
  | truth, .bool _ => true
  | nothing, .null => true
  | _, _ => false

/-- The words for true; all others are words for false. -/
def trueWords : List (List Char) :=
  ["true".toList, "1".toList, "yes".toList, "on".toList]

/-- The value that a kind makes of a text. -/
def read? (kind : SettingKind) (raw : String) : Option Value :=
  match kind with
  | text => some (.str raw)
  | integer => (Number.readInt? raw.toList).map Value.int
  | number => (Number.readDouble? raw.toList).map Value.float
  | truth => some (.bool (trueWords.contains (Text.lower (Text.strip raw.toList))))
  | nothing => none

end SettingKind

/-- A setting. -/
structure Setting where
  name : String
  kinds : List SettingKind
deriving DecidableEq, Repr

/-- Where the values of settings come from. -/
structure Sources where
  /-- What the caller says; null says nothing. -/
  overrides : Entries Value
  environment : EnvironmentFile.Environment
  /-- What the names of variables begin with. -/
  stem : String
  defaults : Entries Value

namespace Sources

/-- The variable of a setting. -/
def variableName (src : Sources) (name : String) : String :=
  src.stem ++ String.ofList (Text.upper name.toList)

end Sources

namespace Setting

/-- The value that a setting makes of a text. -/
def ofText (s : Setting) (raw : String) : Value :=
  (s.kinds.findSome? fun k => k.read? raw).getD (.str raw)

/-- Whether a setting may be given a value. -/
def admits (s : Setting) (v : Value) : Bool := s.kinds.isEmpty || s.kinds.any (·.admits v)

/-- The value of a setting that the caller says nothing about. -/
def inherited (s : Setting) (src : Sources) : Value :=
  match src.environment.lookup (src.variableName s.name) with
  | some raw => s.ofText raw
  | none => (src.defaults.get? (.str s.name)).getD .null

/-- **The value of a setting.** -/
def find (s : Setting) (src : Sources) : Except Error Value :=
  match (src.overrides.get? (.str s.name)).getD .null with
  | .null => .ok (s.inherited src)
  | v =>
    if s.admits v then .ok v
    else .error (.settingType s.name (s.kinds.map SettingKind.name) v.kindName)

end Setting

namespace Settings

/-- The first of the required settings that has no value. -/
def missing? (found : Entries Value) (required : List String) : Option String :=
  required.find? fun name => ((found.get? (.str name)).getD .null).isNull

/-- **The values of settings,** of which the required ones must not be null. -/
def load (settings : List Setting) (src : Sources) (required : List String) :
    Except Error (Entries Value) := do
  let found ← settings.mapM fun s => do return (Key.str s.name, ← s.find src)
  match missing? found required with
  | some name => .error (.noSetting name (src.variableName name))
  | none => .ok found

/-- The values of settings beside an environment file, if there is one: the variables that it
adds count as the environment's own. -/
def loadBeside (file? : Option String) (settings : List Setting) (src : Sources)
    (required : List String) : Except Failure (Entries Value) :=
  match EnvironmentFile.extend src.environment file? with
  | .error f => .error (.fault f)
  | .ok environment =>
    (load settings { src with environment } required).mapError Failure.error

/-! ### The settings of the engine -/

/-- How requests introduce themselves unless a setting says otherwise. -/
def defaultUserAgent : String := "wizard-engine"

/-- Where documents are stored unless a setting says otherwise. -/
def defaultDirectory : String := "wizards"

/-- What the variables of the engine's settings begin with. -/
def engineStem : String := "WIZARD_ENGINE_"

/-- The settings of the engine: how long a call may take, where documents are stored, and how
requests introduce themselves. -/
def engineSettings : List Setting :=
  [⟨"remote_timeout", [.number]⟩, ⟨"wizards_dir", [.text]⟩, ⟨"user_agent", [.text]⟩]

/-- The defaults of the engine's settings. -/
def engineDefaults : Entries Value :=
  [(.str "remote_timeout", .null), (.str "wizards_dir", .str defaultDirectory),
    (.str "user_agent", .str defaultUserAgent)]

/-- The values of the engine's settings, beside an environment file in UTF-8. -/
def loadEngine (file? : Option ByteArray) (overrides : Entries Value)
    (environment : EnvironmentFile.Environment) : Except Failure (Entries Value) :=
  match file?.mapM EnvironmentFile.decode with
  | .error f => .error (.fault f)
  | .ok file? =>
    loadBeside file? engineSettings ⟨overrides, environment, engineStem, engineDefaults⟩ []

/-- How requests introduce themselves under settings. -/
def userAgent (settings : Entries Value) : String :=
  match (settings.get? (.str "user_agent")).getD .null with
  | .str s => if s.isEmpty then defaultUserAgent else s
  | _ => defaultUserAgent

end Settings

end WizardLogic
