import Wiring.Declaration.TypeName

/-!
Names of generated units and of what stands in them.
-/

set_option autoImplicit false

namespace Wiring

open Wiring.Text

def generatedTail : String :=
  ".g.rs"

namespace TypeName

/-- The stem of the units of a module: its path with dots between the segments. -/
def fileStem (type : TypeName) : String :=
  if type.space.isEmpty then type.name
  else ".".intercalate (segments type.space) ++ "." ++ type.name

def facadeFile (type : TypeName) : String :=
  type.fileStem ++ ".module" ++ generatedTail

def registrationsFile (type : TypeName) : String :=
  type.fileStem ++ ".registrations" ++ generatedTail

def dependencyName (type : TypeName) : String :=
  type.name ++ "Dependency"

def extensionName (type : TypeName) : String :=
  type.name ++ "ServiceCollectionExt"

end TypeName

end Wiring
