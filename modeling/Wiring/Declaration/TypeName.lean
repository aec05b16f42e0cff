import Wiring.Text.Segments

/-!
Names of types: the namespace that holds a type, its short name, and how many generic parameters
are left open.
-/

set_option autoImplicit false

namespace Wiring

open Wiring.Text

structure TypeName where
  space : String
  name : String
  arity : Nat
deriving DecidableEq, Repr

namespace TypeName

def of (space name : String) : TypeName :=
  ⟨space, name, 0⟩

/-- The type that a path names; a bare name has no namespace. -/
def ofPath (path : String) : TypeName :=
  match splitLast? path with
  | some (space, name) => of space name
  | none => of "" path

def fullName (type : TypeName) : String :=
  if type.space.isEmpty then type.name else type.space ++ "::" ++ type.name

def isOpen (type : TypeName) : Bool :=
  0 < type.arity

/-- The key that the type is registered under: open parameters are underscores. -/
def key (type : TypeName) : String :=
  if type.isOpen then
    type.fullName ++ "<" ++ ", ".intercalate (List.replicate type.arity "_") ++ ">"
  else type.fullName

def identity (type : TypeName) : String × String :=
  (type.space, type.name)

end TypeName

end Wiring
