import Wiring.Generation.Cache
import Wiring.Generation.References
import Wiring.Plan.Consolidation
import Wiring.Source.Discovery

/-!
A pass over everything that was discovered: the units of each module, in the order of the modules.
A module with a problem has no units, and the others are as they would be without it.
-/

set_option autoImplicit false

namespace Wiring.Generation

open Wiring.Plan
open Wiring.Source

structure PassOutput where
  files : List GeneratedFile
  diagnostics : List Diagnostic
  modules : List String
deriving DecidableEq, Repr

structure Generator where
  settings : Settings
  isCancelled : Bool
  cache : Cache
deriving DecidableEq, Repr

def Generator.ofSettings (settings : Settings) : Generator :=
  ⟨settings, false, .empty⟩

def Generator.cancel (generator : Generator) : Generator :=
  { generator with isCancelled := true }

/-- The settings of a pass: those of the first module. -/
def passSettings (own : Settings) (found : Discovery) : Settings :=
  if found.modules.isEmpty then own else (consolidate found.modules).settings

/-- The units of one module. A module with problems never gets to the cache. -/
def moduleUnits (graph : DependencyGraph) (services : List ServiceDescriptor) (settings : Settings)
    (module : ModuleDescriptor) (cache : Cache) : UnitsOutput × Cache :=
  let problems := referenceProblems graph module
  if problems.isEmpty then cache.units (.of module services settings)
  else (⟨[], problems⟩, cache)

def allUnits (graph : DependencyGraph) (services : List ServiceDescriptor) (settings : Settings) :
    List ModuleDescriptor → Cache → List UnitsOutput × Cache
  | [], cache => ([], cache)
  | module :: rest, cache =>
      let (output, cache) := moduleUnits graph services settings module cache
      let (outputs, cache) := allUnits graph services settings rest cache
      (output :: outputs, cache)

def PassOutput.ofUnits (found : Discovery) (modules : List ModuleDescriptor)
    (outputs : List UnitsOutput) : PassOutput :=
  ⟨outputs.flatMap (·.files),
    found.diagnostics ++ externalWarnings ⟨modules⟩ ++ outputs.flatMap (·.diagnostics),
    modules.map (·.id)⟩

def runPass (own : Settings) (found : Discovery) (cache : Cache) : PassOutput × Cache :=
  let modules := (consolidate found.modules).modules
  let (outputs, cache) :=
    allUnits ⟨modules⟩ found.services (passSettings own found) modules cache
  (.ofUnits found modules outputs, cache)

def Generator.generate (generator : Generator) (found : Discovery) :
    Except Failure PassOutput × Generator :=
  if generator.isCancelled then (.error .cancelled, generator)
  else
    let (output, cache) := runPass generator.settings found generator.cache
    (.ok output, { generator with cache })

/-! ## Log -/

def passLog (found : Discovery) (output : PassOutput) : List LogEntry :=
  let modules := (consolidate found.modules).modules
  (externalWarnings ⟨modules⟩).map (fun warning => ⟨.warn, warning.message⟩) ++
    (modules.flatMap (referenceProblems ⟨modules⟩)).map
      (fun problem => ⟨.error, problem.text⟩) ++
    [⟨.info, "generated " ++ toString output.files.length ++ " files for " ++
      toString output.modules.length ++ " modules"⟩]

end Wiring.Generation
