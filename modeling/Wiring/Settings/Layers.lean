import Wiring.Settings.Raw

/-!
Settings in layers: what a later layer sets wins over what an earlier one sets, and what no layer
sets has its default. Names that are no settings mean nothing.
-/

set_option autoImplicit false

namespace Wiring

structure Layer where
  origin : Origin
  entries : List (String × RawValue)

namespace Layer

/-- What a layer sets a name to; a later entry wins. -/
def value? (layer : Layer) (name : String) : Option RawValue :=
  (layer.entries.reverse.find? fun entry => entry.1 == name).map (·.2)

def find? (layers : List Layer) (name : String) : Option (Origin × RawValue) :=
  layers.reverse.findSome? fun layer => (layer.value? name).map fun value => (layer.origin, value)

def read {α : Type} (layers : List Layer) (name : String) (reader : RawReader α) (default : α) :
    Except SettingsError α :=
  match find? layers name with
  | none => .ok default
  | some (origin, value) =>
      match reader value with
      | .ok found => .ok found
      | .error (keys, fault) => .error (.value origin (name :: keys) fault)

end Layer

open RawReader

/-- The settings of layers over defaults. They are looked at in the order of their names. -/
def Settings.ofLayers (base : Settings) (layers : List Layer) : Except SettingsError Settings := do
  let autoGenerate ← Layer.read layers "auto_generate_module" boolean base.autoGenerateModule
  let verb ← Layer.read layers "default_registration" (given verb) base.defaultVerb
  let marker ← Layer.read layers "generate_attribute" boolean base.generateAttribute
  let logFolder ← Layer.read layers "log_folder" (given path) base.logFolder
  let level ← Layer.read layers "log_level" level base.logLevel
  let output ← Layer.read layers "output_dir" path base.outputDir
  let entry ← Layer.read layers "program_entry" path base.programEntry
  let project ← Layer.read layers "project_dir" path base.projectDir
  let root ← Layer.read layers "root_namespace" (text "a string") base.rootNamespace
  let source ← Layer.read layers "source_dir" path base.sourceDir
  return ⟨verb, autoGenerate, root, project, source, entry, output, marker, logFolder, level⟩

end Wiring
