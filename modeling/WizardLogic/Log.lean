import WizardLogic.Error

/-!
# The log

What the engine notes while it works: records with a level, the name of the logger that notes them
and a text. Logger names form a tree under one root, whose level decides what its loggers note; a
root level of zero leaves the decision to the surrounding program, which asks for warnings.
-/

namespace WizardLogic.Log

/-- How severe a record is. -/
structure Level where
  severity : Int
deriving DecidableEq, Repr, Inhabited

namespace Level

/-- For diagnosis only. -/
def debug : Level := ⟨10⟩

/-- For the course of events. -/
def info : Level := ⟨20⟩

/-- For what went wrong without stopping anything. -/
def warning : Level := ⟨30⟩

/-- For what went wrong. -/
def error : Level := ⟨40⟩

/-- For what ends the program. -/
def critical : Level := ⟨50⟩

/-- The name of a level. -/
def name (l : Level) : String :=
  if l = debug then "DEBUG"
  else if l = info then "INFO"
  else if l = warning then "WARNING"
  else if l = error then "ERROR"
  else if l = critical then "CRITICAL"
  else s!"Level {l.severity}"

end Level

/-- The loggers that note records. -/
inductive Logger
  | root
  | actions
  | engine
  | remote
deriving DecidableEq, Repr

/-- The name of the root logger. -/
def rootName : String := "wizard_engine"

/-- The name of a logger. -/
def Logger.name : Logger → String
  | root => rootName
  | actions => rootName ++ ".actions"
  | engine => rootName ++ ".engine"
  | remote => rootName ++ ".remote"

/-- One record. -/
structure Record where
  level : Level
  logger : Logger
  text : String
deriving DecidableEq, Repr

/-- The name of the logger that is asked for, if it is in the tree. -/
def loggerName (name : String) : Except Error String :=
  if name = rootName || (rootName ++ ".").toList.isPrefixOf name.toList then .ok name
  else .error (.loggerName name)

/-- The least severity that is noted when the root's level is as given. -/
def threshold (rootLevel : Int) : Int :=
  if rootLevel = 0 then Level.warning.severity else rootLevel

/-- Whether records of a level are noted when the root's level is as given. -/
def enabled (rootLevel : Int) (l : Level) : Bool := threshold rootLevel ≤ l.severity

/-- The record of an error's creation, if it is to be noted at all. -/
def creation? (level? : Option Level) (text : String) : Option Record :=
  level?.map fun l => ⟨l, .root, text⟩

end WizardLogic.Log
