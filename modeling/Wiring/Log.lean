import Wiring.Settings.Basic

/-!
The log of a project: entries with levels, and the lines that a level lets through.
-/

set_option autoImplicit false

namespace Wiring

structure LogEntry where
  level : LogLevel
  message : String
deriving DecidableEq, Repr

def LogLevel.records (level : LogLevel) (entry : LogEntry) : Bool :=
  entry.level.rank ≤ level.rank

def LogEntry.line (entry : LogEntry) : String :=
  "[" ++ entry.level.label ++ "] " ++ entry.message

/-- A log that is kept in a file: nothing is written where there is no file. -/
structure Log where
  file : Option String
  level : LogLevel
deriving DecidableEq, Repr

namespace Log

def fileName : String :=
  "wiregen.log"

def inFolder (folder : Option String) (level : LogLevel) : Log :=
  ⟨folder.map fun folder => Files.join folder fileName, level⟩

def ofSettings (settings : Settings) : Log :=
  .inFolder settings.logPath settings.logLevel

end Log

end Wiring
