import Wiring.Generated.Names
import Wiring.Settings.Basic
import Wiring.Source.Discovery
import Wiring.Workspace.Basic

/-!
The source files of a project: those below the source directory, a directory's entries by name.
Generated units are no sources.
-/

set_option autoImplicit false

namespace Wiring.Workspace

open Wiring.Files
open Wiring.Source
open Wiring.Text

def isSourcePath (path : String) : Bool :=
  extension? path == some "rs" && !endsWith generatedTail path

def byName {α : Type} (entries : List (String × α)) : List (String × α) :=
  entries.mergeSort fun left right => left.1 ≤ right.1

mutual

def sourcesBelow (path : String) : Node → List String
  | .file _ => if isSourcePath path then [path] else []
  | .directory entries => (byName (entrySources path entries)).flatMap (·.2)

def entrySources (path : String) : List (String × Node) → List (String × List String)
  | [] => []
  | (name, node) :: rest => (name, sourcesBelow (join path name) node) :: entrySources path rest

end

def sourceFiles (workspace : Workspace) (settings : Settings) : Except Failure (List String) :=
  match workspace.node settings.sourcePath with
  | .ok node => .ok (sourcesBelow settings.sourcePath node)
  | .error fault => .error (.walk settings.sourcePath fault)

def sourceText (workspace : Workspace) (path : String) : Except Failure SourceText :=
  match workspace.text path with
  | .ok text => .ok ⟨path, text⟩
  | .error fault => .error (.unreadable path fault)

/-- The texts of the source files of a project. Cancellation is noticed before each file. -/
def sources (workspace : Workspace) (settings : Settings) (isCancelled : Bool) :
    Except Failure (List SourceText) := do
  let files ← workspace.sourceFiles settings
  if isCancelled && !files.isEmpty then throw .cancelled
  else files.mapM workspace.sourceText

end Wiring.Workspace
