import Wiring.Declaration.Verb
import Wiring.Files.Path

/-!
The settings of a project, and the paths that they denote.
-/

set_option autoImplicit false

namespace Wiring

open Wiring.Files

inductive LogLevel where
  | error
  | warn
  | info
  | debug
deriving DecidableEq, Repr

namespace LogLevel

def all : List LogLevel :=
  [.error, .warn, .info, .debug]

def text : LogLevel → String
  | .error => "error"
  | .warn => "warn"
  | .info => "info"
  | .debug => "debug"

def label : LogLevel → String
  | .error => "Error"
  | .warn => "Warn"
  | .info => "Info"
  | .debug => "Debug"

def rank : LogLevel → Nat
  | .error => 0
  | .warn => 1
  | .info => 2
  | .debug => 3

end LogLevel

structure Settings where
  defaultVerb : Option Verb
  autoGenerateModule : Bool
  rootNamespace : String
  projectDir : String
  sourceDir : String
  programEntry : String
  outputDir : String
  /-- Whether modules have companion markers unless they say otherwise. -/
  generateAttribute : Bool
  logFolder : Option String
  logLevel : LogLevel
deriving DecidableEq, Repr

namespace Settings

def default : Settings :=
  ⟨none, false, "crate", ".", "src", "src/main.rs", "target/wiregen", false, none, .info⟩

def resolve (settings : Settings) (path : String) : String :=
  join settings.projectDir path

def sourcePath (settings : Settings) : String :=
  settings.resolve settings.sourceDir

def programEntryPath (settings : Settings) : String :=
  settings.resolve settings.programEntry

def outputPath (settings : Settings) : String :=
  settings.resolve settings.outputDir

def logPath (settings : Settings) : Option String :=
  settings.logFolder.map settings.resolve

/-- Whether a file is the program entry: it is the file that the settings denote, or its last
components are those that they name. -/
def isProgramEntry (settings : Settings) (file : String) : Bool :=
  samePath file settings.programEntryPath || samePath file settings.programEntry ||
    pathEndsWith file settings.programEntry

end Settings

end Wiring
