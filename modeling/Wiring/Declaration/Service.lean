import Wiring.Declaration.Lifetime
import Wiring.Declaration.TypeName
import Wiring.Declaration.Verb
import Wiring.Text.Lowercase
import Wiring.Text.Ranges

/-!
Declared services: the registrations on an implementation, the traits that it implements, and the
function that makes it.
-/

set_option autoImplicit false

namespace Wiring

open Wiring.Text

/-! ## Contracts -/

/-- Traits that a type implements for other reasons than to offer a service. -/
def infrastructureTraits : List String := [
  "Any", "AsMut", "AsRef", "Clone", "ConfigureServices", "Copy", "Debug", "Default",
  "DependencyModule", "Deref", "DerefMut", "Deserialize", "Display", "Drop", "Eq", "Error", "From",
  "FromRef", "Hash", "Into", "Iterator", "Ord", "PartialEq", "PartialOrd", "Send", "Serialize",
  "Sync", "TryFrom"]

def TypeName.isInfrastructure (type : TypeName) : Bool :=
  infrastructureTraits.contains type.name

/-! ## Factories -/

def containerType : String :=
  "ServiceResolver"

/-- Words of a text, parted by blanks; a reference sign is a word of its own. -/
def referenceWords (text : String) : List (List Char) :=
  finish (text.toList.foldl step ([], []))
where
  finish (state : List (List Char) × List Char) : List (List Char) :=
    (if state.2.isEmpty then state.1 else state.2.reverse :: state.1).reverse
  step (state : List (List Char) × List Char) (c : Char) : List (List Char) × List Char :=
    let closed := if state.2.isEmpty then state.1 else state.2.reverse :: state.1
    if c == '&' then (['&'] :: closed, [])
    else if isWhiteSpace c then (closed, [])
    else (state.1, c :: state.2)

def isContainerType (text : String) : Bool :=
  match referenceWords text with
  | ['&'] :: rest =>
      let rest :=
        match rest with
        | ('\'' :: _) :: more => more
        | words => words
      match rest with
      | dyn :: path =>
          dyn == "dyn".toList &&
            (let path := path.flatten
             let last := ((splitLastChars? path).map (·.2)).getD path
             last == containerType.toList)
      | [] => false
  | _ => false

inductive ParameterSource where
  | container
  | shared (type : String) (service : TypeName)
  | cloned (type : String) (service : TypeName)
deriving DecidableEq, Repr

structure FactoryParameter where
  name : String
  type : String
  source : ParameterSource
deriving DecidableEq, Repr

namespace FactoryParameter

def container (name : String) : FactoryParameter :=
  ⟨name, "&dyn " ++ containerType, .container⟩

def shared (name type : String) (service : TypeName) : FactoryParameter :=
  ⟨name, "Arc<" ++ type ++ ">", .shared type service⟩

def cloned (name type : String) (service : TypeName) : FactoryParameter :=
  ⟨name, type, .cloned type service⟩

end FactoryParameter

structure FactoryMethod where
  path : String
  parameters : List FactoryParameter
deriving DecidableEq, Repr

namespace FactoryMethod

/-- Whether the function can be handed to the container as it is. -/
def takesContainerOnly (factory : FactoryMethod) : Bool :=
  match factory.parameters with
  | [only] => only.source == .container
  | _ => false

def glueLead : String :=
  "__wiregen_glue_"

/-- The name of the glue function that looks up each argument. -/
def glueName (factory : FactoryMethod) : String :=
  let path := factory.path.toList
  let path := dropLeads "crate::".toList path.length path
  glueLead ++ "_".intercalate
    ((segmentsOfChars path).map fun part => lowercase (String.ofList part))

end FactoryMethod

/-! ## Registrations -/

structure RegistrationModel where
  service : Option TypeName
  lifetime : Lifetime
  verb : Option Verb
  realm : Option TypeName
  key : Option String
  crossWire : Bool
  line : Nat
deriving DecidableEq, Repr

namespace RegistrationModel

def ofLifetime (lifetime : Lifetime) : RegistrationModel :=
  ⟨none, lifetime, none, none, none, false, 0⟩

/-- Whether the registration applies to a module: its realm is the module, or it has no realm and
the module takes such registrations. -/
def appliesTo (registration : RegistrationModel) (module : TypeName) (onlyRealm : Bool) : Bool :=
  match registration.realm with
  | some realm => realm == module
  | none => !onlyRealm

end RegistrationModel

structure ServiceDescriptor where
  implementation : TypeName
  sourceFile : String
  interfaces : List TypeName
  registrations : List RegistrationModel
  factory : Option FactoryMethod
deriving DecidableEq, Repr

namespace ServiceDescriptor

def ofImplementation (implementation : TypeName) : ServiceDescriptor :=
  ⟨implementation, "", [], [], none⟩

def isEmpty (service : ServiceDescriptor) : Bool :=
  service.registrations.isEmpty

def contracts (service : ServiceDescriptor) : List TypeName :=
  service.interfaces.filter fun type => !type.isInfrastructure

/-- The type that a registration is made under: the explicit one, else the first contract, else
the implementation. -/
def serviceType (service : ServiceDescriptor) (registration : RegistrationModel) : TypeName :=
  (registration.service.or service.contracts.head?).getD service.implementation

def appliesTo (service : ServiceDescriptor) (module : TypeName) (onlyRealm : Bool) : Bool :=
  service.registrations.any fun registration => registration.appliesTo module onlyRealm

end ServiceDescriptor

end Wiring
