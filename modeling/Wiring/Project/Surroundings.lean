import Wiring.Files.Relative
import Wiring.Settings.Variables
import Wiring.Toml.Document
import Wiring.Workspace.Basic

/-!
The surroundings of a project: a workspace, the variables of the environment, and where the files
with settings of the user may lie. The settings of a project come from all of them.
-/

set_option autoImplicit false

namespace Wiring

open Wiring.Files

structure Surroundings where
  workspace : Workspace
  environment : List (String × String)
  home : Option String
  configFolder : Option String

namespace Surroundings

def projectFile : String :=
  "wiregen.toml"

def pathOf (place : Workspace.Location) : String :=
  ofComponents ("/" :: place)

def outward : Nat → Workspace.Location → List Workspace.Location
  | 0, place => [place]
  | fuel + 1, place => if place.isEmpty then [place] else place :: outward fuel place.dropLast

/-- The file of a path: a relative one is looked for in the directory that paths start from and
then in each one that it lies in. -/
def findFile? (surroundings : Surroundings) (path : String) : Option String :=
  let workspace := surroundings.workspace
  if isAbsolute path then if workspace.isFile path then some path else none
  else
    let places := outward workspace.home.length workspace.home
    (places.map fun place => join (pathOf place) path).find? workspace.isFile

/-- The file with the settings of the user: that in the home, else that in the folder for
settings. -/
def userFile? (surroundings : Surroundings) : Option String :=
  let inHome := surroundings.home.map fun home =>
    join (join (join home ".config") "wiregen") "config.toml"
  let inFolder := surroundings.configFolder.map fun folder =>
    join (join folder "wiregen") "config.toml"
  (inHome.filter surroundings.workspace.contains).or inFolder

def rawValue : Toml.Value → RawValue
  | .text content => .text content
  | .int value => .signed value
  | .float decimal => .float decimal
  | .bool value => .bool value
  | .array _ => .sequence
  | .table entries => .table (rawEntries entries)
where
  rawEntries : List (String × Toml.Value) → List (String × RawValue)
    | [] => []
    | (key, value) :: rest => (key, rawValue value) :: rawEntries rest

/-- The layer of a file, or why it cannot be read. A file that is not there sets nothing. -/
def fileLayer (surroundings : Surroundings) (path : Option String) :
    Except (String × String) Layer :=
  match path.bind surroundings.findFile? with
  | none => .ok ⟨.file "", []⟩
  | some found =>
      let shown := seenFrom (pathOf surroundings.workspace.home) found
      match surroundings.workspace.text found with
      | .error fault => .error (shown, fault.text)
      | .ok text =>
          match Toml.parse text with
          | some values => .ok ⟨.file shown, rawValue.rawEntries values⟩
          | none => .error (shown, "TOML parse error")

def layers (surroundings : Surroundings) (projectDir : String) :
    Except SettingsError (List Layer) :=
  let user := surroundings.fileLayer surroundings.userFile?
  let project := surroundings.fileLayer (some (join projectDir projectFile))
  match user, project with
  | .ok user, .ok project => .ok [user, project, Variables.layer surroundings.environment]
  | .error first, .error second => .error (.files [first, second])
  | .error problem, .ok _ => .error (.files [problem])
  | .ok _, .error problem => .error (.files [problem])

def settings (surroundings : Surroundings) (projectDir : String) :
    Except SettingsError Settings := do
  let layers ← surroundings.layers projectDir
  Settings.ofLayers { Settings.default with projectDir } layers

end Surroundings

end Wiring
