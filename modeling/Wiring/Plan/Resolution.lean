import Wiring.Declaration.Module
import Wiring.Declaration.Service

/-!
Which registrations apply to a module, and how. Services are taken in the order of their
implementations, so the outcome does not depend on the order of discovery.
-/

set_option autoImplicit false

namespace Wiring.Plan

inductive ResolvedImplementation where
  | type (type : TypeName)
  | factory (path : String)
  | glue (name : String)
deriving DecidableEq, Repr

structure ResolvedRegistration where
  implementationType : TypeName
  service : TypeName
  lifetime : Lifetime
  verb : Verb
  key : Option String
  implementation : ResolvedImplementation
  crossWire : Option (List TypeName)
deriving DecidableEq, Repr

structure ResolvedModule where
  module : TypeName
  registrations : List ResolvedRegistration
  glueFactories : List FactoryMethod
deriving DecidableEq, Repr

def ResolvedModule.isEmpty (resolved : ResolvedModule) : Bool :=
  resolved.registrations.isEmpty

/-! ## Order -/

/-- Services by the names of their implementations, and then by their namespaces. -/
def precedes (left right : ServiceDescriptor) : Bool :=
  left.implementation.name < right.implementation.name ||
    (left.implementation.name == right.implementation.name &&
      left.implementation.space ≤ right.implementation.space)

def orderedServices (services : List ServiceDescriptor) : List ServiceDescriptor :=
  (services.filter fun service => !service.isEmpty).mergeSort precedes

/-! ## One service -/

def applicable (module : ModuleDescriptor) (service : ServiceDescriptor) :
    List RegistrationModel :=
  service.registrations.filter fun registration =>
    registration.appliesTo module.type module.onlyRealm

def implementationOf (service : ServiceDescriptor) : ResolvedImplementation :=
  match service.factory with
  | none => .type service.implementation
  | some factory =>
      if factory.takesContainerOnly then .factory factory.path else .glue factory.glueName

def glueFactory? (service : ServiceDescriptor) : Option FactoryMethod :=
  service.factory.filter fun factory => !factory.takesContainerOnly

def distinct {α : Type} [BEq α] (values : List α) : List α :=
  values.foldl (fun found value => if found.contains value then found else found ++ [value]) []

def verbOf (module : ModuleDescriptor) (projectVerb : Option Verb)
    (registration : RegistrationModel) : Verb :=
  Verb.resolve registration.verb module.verb projectVerb

/-- The registrations of one realm: a cross-wired one stands for all of them. -/
def resolveRealm (module : ModuleDescriptor) (projectVerb : Option Verb)
    (service : ServiceDescriptor) (group : List RegistrationModel) : List ResolvedRegistration :=
  match group.find? (·.crossWire) with
  | some wired =>
      [⟨service.implementation, service.implementation, wired.lifetime,
        verbOf module projectVerb wired, wired.key, implementationOf service,
        some service.contracts⟩]
  | none =>
      group.map fun registration =>
        ⟨service.implementation, service.serviceType registration, registration.lifetime,
          verbOf module projectVerb registration, registration.key, implementationOf service,
          none⟩

def resolveService (module : ModuleDescriptor) (projectVerb : Option Verb)
    (service : ServiceDescriptor) : List ResolvedRegistration :=
  let found := applicable module service
  (distinct (found.map (·.realm))).flatMap fun realm =>
    resolveRealm module projectVerb service (found.filter (·.realm == realm))

/-! ## One module -/

def resolveModule (module : ModuleDescriptor) (services : List ServiceDescriptor)
    (projectVerb : Option Verb) : ResolvedModule :=
  let taken := (orderedServices services).filter fun service =>
    !(applicable module service).isEmpty
  ⟨module.type, taken.flatMap (resolveService module projectVerb),
    distinct (taken.filterMap glueFactory?)⟩

end Wiring.Plan
