/-!
Instances looked up with the type that is asked for.
-/

set_option autoImplicit false

namespace Wiring.Container

inductive ValueType where
  | string
  | text
  | natural
  | integer
  | boolean
deriving DecidableEq, Repr

def ValueType.name : ValueType → String
  | .string => "alloc::string::String"
  | .text => "str"
  | .natural => "u32"
  | .integer => "i64"
  | .boolean => "bool"

structure Provision (α : Type) where
  service : String
  key : Option String
  type : ValueType
  value : α

inductive LookupError where
  | notRegistered (service : String)
  | typeMismatch (service : String) (expected : ValueType)
deriving DecidableEq, Repr

def LookupError.message : LookupError → String
  | .notRegistered service => "Service not registered: " ++ service
  | .typeMismatch service expected =>
      "Service " ++ service ++ " resolved to an unexpected type, expected " ++ expected.name

/-- The value of a service under a key, as one of a type. What was provided last counts. -/
def require {α : Type} (provisions : List (Provision α)) (service : String) (key : Option String)
    (expected : ValueType) : Except LookupError α :=
  match provisions.reverse.find? fun entry => entry.service == service && entry.key == key with
  | none => .error (.notRegistered service)
  | some entry =>
      if entry.type == expected then .ok entry.value else .error (.typeMismatch service expected)

end Wiring.Container
