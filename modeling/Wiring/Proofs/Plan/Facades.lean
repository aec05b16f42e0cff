import Wiring.Container.Loading
import Wiring.Generated.Facade
import Wiring.Generated.Registrations
import Wiring.Plan.DependencyGraph
import Wiring.Plan.Operations
import Wiring.Proofs.Outcome

/-!
# Facades when they run

The modules that the units of a compilation make of its types: what they refer to, what they
register, and which of them are equal.  `facadeOf_renders` ties them to the units.
-/

set_option autoImplicit false

namespace Wiring.Plan

open Wiring.Container
open Wiring.Generated

/-- A value of a module type: the path of its type, and what it is constructed from. -/
structure ModuleValue where
  path : String
  arguments : List String
  properties : List PropertyOverride
deriving DecidableEq, Repr

namespace ModuleValue

def ofReference (reference : ModuleReference) : ModuleValue :=
  ⟨reference.module.fullName, reference.arguments, reference.properties⟩

def ofType (type : TypeName) : ModuleValue :=
  ⟨type.fullName, [], []⟩

end ModuleValue

/-- The modules of the types of a compilation. Values of one type are equal, whatever they were
constructed from, and no module has hooks of its own. -/
def facades (graph : DependencyGraph) (services : List ServiceDescriptor)
    (projectVerb : Option Verb) : Family ModuleValue where
  name value := value.path
  covers left right := left.path == right.path
  references value :=
    match graph.get? value.path with
    | some module => module.references.map fun reference => .direct (.ofReference reference)
    | none => []
  extras value :=
    match graph.get? value.path with
    | some module => module.additionalModules.map fun type => .direct (.ofType type)
    | none => []
  applyServices value session :=
    match graph.get? value.path with
    | some module => session.applyAll (resolveModule module services projectVerb).operations
    | none => session
  configure _ session := session
  features _ := []
  featureOrder _ := 0
  handles _ := []
  handleFeature _ _ _ session := session
  members := graph.modules.map fun module => .ofType module.type

/-! ## Units -/

/-- A construction is the code of a reference. -/
def Constructs (module : ModuleDescriptor) (reference : Reference ModuleValue ProviderFailure)
    (construction : Construction) : Prop :=
  ∃ value, reference = .direct value ∧
    pathPart module value.path = .ok construction.type ∧
    value.arguments.mapM (exprPart module) = .ok construction.arguments ∧
    (value.properties.mapM fun property => do
      return (← namePart module property.name, ← exprPart module property.value)) =
        .ok construction.values

/-- The unit of a module is the code of its facade: its name, what it refers to and in which order,
and registrations if it makes any. -/
structure Renders (family : Family ModuleValue) (module : ModuleDescriptor) (unit : Facade) :
    Prop where
  name : unit.id = family.name (.ofType module.type)
  references : List.Forall₂ (Constructs module) (family.references (.ofType module.type))
    unit.references
  extras : List.Forall₂ (Constructs module) (family.extras (.ofType module.type))
    (unit.extras.map fun type => ⟨type, [], []⟩)
  silent : unit.hasRegistrations = false →
    ∀ session, family.applyServices (.ofType module.type) session = session

section Facades

variable {graph : DependencyGraph} {services : List ServiceDescriptor} {projectVerb : Option Verb}

theorem facades_applyServices {value : ModuleValue} {module : ModuleDescriptor}
    (found : graph.get? value.path = some module) (session : Session ModuleValue) :
    (facades graph services projectVerb).applyServices value session =
      session.applyAll (resolveModule module services projectVerb).operations := by
  simp [facades, found]

end Facades

end Wiring.Plan
