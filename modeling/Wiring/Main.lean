import Wiring.CommandLine.Messages

/-!
The program: reads the files that a command needs, runs the command, and writes the files that it
changed.
-/

set_option autoImplicit false

namespace Wiring.Program

open Wiring.CommandLine
open Wiring.Files

def loadFile (workspace : Workspace) (path : String) : IO Workspace := do
  try return workspace.install path (← IO.FS.readBinFile path)
  catch _ => return workspace

partial def loadTree (workspace : Workspace) (path : String) : IO Workspace := do
  let place ← IO.FS.realPath path
  if ← place.isDir then
    let mut loaded := (workspace.makeDirectories path).1
    for found in ← place.readDir do
      loaded ← loadTree loaded (join path found.fileName)
    return loaded
  else loadFile workspace path

def loadVariables : IO (List (String × String)) := do
  let mut found := []
  for key in ["AUTO_GENERATE_MODULE", "DEFAULT_REGISTRATION", "GENERATE_ATTRIBUTE", "LOG_FOLDER",
      "LOG_LEVEL", "OUTPUT_DIR", "PROGRAM_ENTRY", "PROJECT_DIR", "ROOT_NAMESPACE",
      "SOURCE_DIR"] do
    match ← IO.getEnv (variableLead ++ key) with
    | some value => found := (variableLead ++ key, value) :: found
    | none => pure ()
  return found

def loadSurroundings (project : String) : IO Surroundings := do
  let here := (← IO.currentDir).toString
  let place := (components here).drop 1
  let empty : Workspace := ⟨.directory [], place⟩
  let home ← IO.getEnv "HOME"
  let configFolder :=
    (← IO.getEnv "XDG_CONFIG_HOME").or (home.map fun home => join home ".config")
  let mut workspace := (empty.makeDirectories here).1
  for folder in (home.map fun home => join home ".config").toList ++ configFolder.toList do
    workspace ← loadFile workspace (join folder "wiregen/config.toml")
  for outer in Surroundings.outward place.length place do
    workspace ← loadFile workspace
      (join (Surroundings.pathOf outer) (join project Surroundings.projectFile))
  return ⟨workspace, ← loadVariables, home, configFolder⟩

def loadProject (surroundings : Surroundings) (settings : Settings) : IO Surroundings := do
  let mut workspace := surroundings.workspace
  try workspace ← loadTree workspace settings.sourcePath
  catch _ => pure ()
  match (Log.ofSettings settings).file with
  | some file => workspace ← loadFile workspace file
  | none => pure ()
  return { surroundings with workspace }

def save (before after : Workspace) : IO Unit := do
  for (path, contents) in after.changedFrom before do
    match outerPathOf path with
    | some folder => IO.FS.createDirAll folder
    | none => pure ()
    IO.FS.writeBinFile path contents
where
  outerPathOf (path : String) : Option String :=
    (Workspace.outerPaths path).head?

def run (arguments : List String) : IO Nat := do
  let project :=
    match parse arguments with
    | .ok invocation => invocation.command.project
    | .error _ => defaultProject
  let surroundings ← loadSurroundings project
  let surroundings ←
    match surroundings.settings project with
    | .ok settings => loadProject surroundings settings
    | .error _ => pure surroundings
  let (workspace, result) := CommandLine.run surroundings arguments
  save surroundings.workspace workspace
  match result with
  | .ok (_, report) =>
      for line in report.output do
        IO.println line
      for line in report.errors do
        IO.eprintln line
      return report.code
  | .error error =>
      if error.code == 0 then IO.println error.message else IO.eprintln error.message
      return error.code

end Wiring.Program

def main (arguments : List String) : IO UInt32 := do
  return (← Wiring.Program.run arguments).toUInt32
