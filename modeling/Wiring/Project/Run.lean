import Wiring.Generation.Pass
import Wiring.Workspace.Output
import Wiring.Workspace.Sources

/-!
Discovery and generation in a workspace. Both write to the log of the project; generated units go
into a directory.
-/

set_option autoImplicit false

namespace Wiring.Project

open Wiring.Generation
open Wiring.Source

/-- What a step leaves behind: the workspace, and what it gives or why it fails. -/
abbrev Outcome (α : Type) := Workspace × Except Failure α

def discover (workspace : Workspace) (settings : Settings) (isCancelled : Bool) :
    Outcome Discovery :=
  match workspace.sources settings isCancelled with
  | .error failure => (workspace, .error failure)
  | .ok sources =>
      let found := Source.discover settings sources
      (workspace.writeLog (.ofSettings settings) (discoveryLog settings sources found), .ok found)

def pass (workspace : Workspace) (settings : Settings) : Outcome PassOutput :=
  match discover workspace settings false with
  | (workspace, .error failure) => (workspace, .error failure)
  | (workspace, .ok found) =>
      let output := (runPass settings found .empty).1
      (workspace.writeLog (.ofSettings settings) (passLog found output), .ok output)

def generate (workspace : Workspace) (settings : Settings) (out : Option String) :
    Outcome PassOutput :=
  match pass workspace settings with
  | (workspace, .error failure) => (workspace, .error failure)
  | (workspace, .ok output) =>
      match workspace.writeUnits (out.getD settings.outputPath) output.files with
      | (written, some fault) => (written, .error (.io fault))
      | (written, none) => (written, .ok output)

end Wiring.Project
