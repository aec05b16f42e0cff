import Wiring.Diagnostic
import Wiring.Files.Canonical
import Wiring.Generated.Facade
import Wiring.Generated.Registrations
import Wiring.Settings.Basic

/-!
The units of one module, from everything that they depend on.
-/

set_option autoImplicit false

namespace Wiring.Generation

open Wiring.Files
open Wiring.Plan

structure UnitsInput where
  module : ModuleDescriptor
  services : List ServiceDescriptor
  settings : Settings
deriving DecidableEq, Repr

structure UnitsOutput where
  files : List GeneratedFile
  diagnostics : List Diagnostic
deriving DecidableEq, Repr

/-- The input of a module: of the services only those that apply to it. -/
def UnitsInput.of (module : ModuleDescriptor) (services : List ServiceDescriptor)
    (settings : Settings) : UnitsInput :=
  ⟨module, services.filter fun service => service.appliesTo module.type module.onlyRealm,
    settings⟩

/-! ## Equal inputs -/

def canonicalSettings (settings : Settings) : Settings :=
  { settings with
    projectDir := canonical settings.projectDir
    sourceDir := canonical settings.sourceDir
    programEntry := canonical settings.programEntry
    outputDir := canonical settings.outputDir
    logFolder := settings.logFolder.map canonical }

def canonicalService (service : ServiceDescriptor) : ServiceDescriptor :=
  { service with sourceFile := canonical service.sourceFile }

def UnitsInput.canonical (input : UnitsInput) : UnitsInput :=
  ⟨{ input.module with sourceFile := Files.canonical input.module.sourceFile },
    input.services.map canonicalService, canonicalSettings input.settings⟩

/-- Whether two inputs are the same but for the spelling of paths. -/
def UnitsInput.same (left right : UnitsInput) : Bool :=
  left.canonical == right.canonical

/-! ## Units -/

def unitFiles (module : ModuleDescriptor) (resolved : ResolvedModule) :
    Except Failure (List GeneratedFile) := do
  let facade ← Generated.facadeFile module !resolved.isEmpty
  if resolved.isEmpty then return [facade]
  else return [facade, ← Generated.registrationsFile module resolved resolved.operations]

def UnitsInput.resolved (input : UnitsInput) : ResolvedModule :=
  resolveModule input.module input.services input.settings.defaultVerb

/-- The units of a module. One that cannot be written has no units and one diagnostic. -/
def generateUnits (input : UnitsInput) : UnitsOutput :=
  match unitFiles input.module input.resolved with
  | .ok files => ⟨files, []⟩
  | .error failure => ⟨[], [.ofFailure input.module.sourceFile failure]⟩

end Wiring.Generation
