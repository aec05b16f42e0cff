import Wiring.Declaration.Lifetime
import Wiring.Declaration.Verb

/-!
Registrations of a container, and the operations that make them.
-/

set_option autoImplicit false

namespace Wiring.Container

inductive Implementation where
  | type (key : String)
  | factory (name : String)
  /-- It resolves another service under the same key. -/
  | forward (service : String)
deriving DecidableEq, Repr

structure Registration where
  service : String
  key : Option String
  implementation : Implementation
  lifetime : Lifetime
deriving DecidableEq, Repr

namespace Registration

def isFor (registration : Registration) (service : String) (key : Option String) : Bool :=
  registration.service == service && registration.key == key

def sameService (registration other : Registration) : Bool :=
  registration.isFor other.service other.key

def forwardFrom (registration : Registration) (interface : String) : Registration :=
  ⟨interface, registration.key, .forward registration.service, registration.lifetime⟩

end Registration

inductive Operation where
  | addStandard (registration : Registration)
  | addKeyed (registration : Registration)
  | tryAdd (registration : Registration)
  | tryAddEnumerable (registration : Registration)
  | replace (registration : Registration)
  | crossWire (registration : Registration) (interfaces : List String) (verb : Verb)
deriving DecidableEq, Repr

def Operation.ofVerb (verb : Verb) (registration : Registration) : Operation :=
  match verb with
  | .add => if registration.key.isSome then .addKeyed registration else .addStandard registration
  | .tryAdd => .tryAdd registration
  | .tryEnumerable => .tryAddEnumerable registration
  | .replace => .replace registration

end Wiring.Container
