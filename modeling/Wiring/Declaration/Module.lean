import Wiring.Declaration.TypeName
import Wiring.Declaration.Verb

/-!
Declared modules: what they are constructed from, which modules they depend on, and which features
they provide or handle.
-/

set_option autoImplicit false

namespace Wiring

structure Parameter where
  name : String
  type : String
deriving DecidableEq, Repr

structure PropertyOverride where
  name : String
  value : String
deriving DecidableEq, Repr

/-- A dependency on a module: positional arguments, and values of properties. -/
structure ModuleReference where
  module : TypeName
  arguments : List String
  properties : List PropertyOverride
deriving DecidableEq, Repr

/-- Whether the reference constructs its module from values of its own. -/
def ModuleReference.isParameterized (reference : ModuleReference) : Bool :=
  !reference.arguments.isEmpty || !reference.properties.isEmpty

structure ModuleDescriptor where
  type : TypeName
  sourceFile : String
  line : Nat
  /-- Made up for the whole program rather than declared. -/
  autoGenerated : Bool
  /-- Takes only registrations that name it as their realm. -/
  onlyRealm : Bool
  verb : Option Verb
  generateAttribute : Bool
  useMethod : Option String
  /-- Equal values are one module. -/
  autoEquality : Bool
  configure : Bool
  features : List TypeName
  featureOrder : Int
  handles : List TypeName
  constructor : List Parameter
  properties : List Parameter
  references : List ModuleReference
  additionalModules : List TypeName
deriving DecidableEq, Repr

namespace ModuleDescriptor

def ofType (type : TypeName) (sourceFile : String) : ModuleDescriptor :=
  ⟨type, sourceFile, 0, false, false, none, false, none, false, false, [], 0, [], [], [], [], []⟩

/-- What two declarations of one module share. -/
def identity (module : ModuleDescriptor) : String × String :=
  module.type.identity

def id (module : ModuleDescriptor) : String :=
  module.type.fullName

def isParameterized (module : ModuleDescriptor) : Bool :=
  !module.constructor.isEmpty

def dependencyIds (module : ModuleDescriptor) : List String :=
  module.references.map (·.module.fullName) ++ module.additionalModules.map (·.fullName)

end ModuleDescriptor

end Wiring
