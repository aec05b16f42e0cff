import Wiring.Generated.Basic
import Wiring.Log
import Wiring.Workspace.Change

/-!
What a project writes: the generated units, and the lines of its log. Units that are not of a pass
are left alone, and a log that cannot be written changes nothing else.
-/

set_option autoImplicit false

namespace Wiring.Workspace

open Wiring.Files

/-- Writes units into a directory that is there. Those before the one that fails stay. -/
def writeAll (workspace : Workspace) (directory : String) :
    List GeneratedFile → Workspace × Option FileFault
  | [] => (workspace, none)
  | file :: rest =>
      match workspace.write (join directory file.name) file.contents with
      | .ok written => written.writeAll directory rest
      | .error fault => (workspace, some fault)

def writeUnits (workspace : Workspace) (directory : String) (files : List GeneratedFile) :
    Workspace × Option FileFault :=
  match workspace.makeDirectories directory with
  | (made, some fault) => (made, some fault)
  | (made, none) => made.writeAll directory files

/-- Adds an entry to the end of a log file. The folder of the file is made if need be. -/
def writeEntry (workspace : Workspace) (file : String) (entry : LogEntry) : Workspace :=
  match workspace.makeChain (outerPaths file) with
  | (made, some _) => made
  | (made, none) =>
      match made.append file (entry.line ++ "\n") with
      | .ok written => written
      | .error _ => made

def writeLog (workspace : Workspace) (log : Log) (entries : List LogEntry) : Workspace :=
  match log.file with
  | some file => (entries.filter log.level.records).foldl (·.writeEntry file) workspace
  | none => workspace

end Wiring.Workspace
