import Wiring.Container.Registration

/-!
The registrations of a container in their order, what each verb does to them, and which one a
lookup uses.
-/

set_option autoImplicit false

namespace Wiring.Container

abbrev Registrations := List Registration

namespace Registrations

/-! ## Verbs -/

def add (registrations : Registrations) (registration : Registration) : Registrations :=
  registrations ++ [registration]

/-- Appends a registration unless its service is registered under its key. -/
def tryAdd (registrations : Registrations) (registration : Registration) : Registrations :=
  if registrations.any fun existing => existing.sameService registration then registrations
  else registrations ++ [registration]

/-- Appends a registration unless its implementation is registered for its service. -/
def tryAddEnumerable (registrations : Registrations) (registration : Registration) :
    Registrations :=
  if registrations.any fun existing =>
      existing.sameService registration &&
        existing.implementation == registration.implementation then registrations
  else registrations ++ [registration]

/-- Removes the first registration of a service under its key and appends the new one. -/
def replace (registrations : Registrations) (registration : Registration) : Registrations :=
  registrations.eraseP (fun existing => existing.sameService registration) ++ [registration]

def applyVerb (registrations : Registrations) (verb : Verb) (registration : Registration) :
    Registrations :=
  match verb with
  | .add => registrations.add registration
  | .tryAdd => registrations.tryAdd registration
  | .tryEnumerable => registrations.tryAddEnumerable registration
  | .replace => registrations.replace registration

/-- Registers an implementation, and each interface as a forward to it. -/
def crossWire (registrations : Registrations) (registration : Registration)
    (interfaces : List String) (verb : Verb) : Registrations :=
  interfaces.foldl
    (fun found interface => applyVerb found verb (registration.forwardFrom interface))
    (registrations.applyVerb verb registration)

def apply (registrations : Registrations) : Operation → Registrations
  | .addStandard registration => registrations.add registration
  | .addKeyed registration => registrations.add registration
  | .tryAdd registration => registrations.tryAdd registration
  | .tryAddEnumerable registration => registrations.tryAddEnumerable registration
  | .replace registration => registrations.replace registration
  | .crossWire registration interfaces verb => registrations.crossWire registration interfaces verb

def applyAll (registrations : Registrations) (operations : List Operation) : Registrations :=
  operations.foldl apply registrations

/-! ## Lookup -/

/-- The registrations of a service under exactly this key. -/
def find (registrations : Registrations) (service : String) (key : Option String) :
    Registrations :=
  registrations.filter fun registration => registration.isFor service key

/-- The registration that a lookup uses: the last one. -/
def get? (registrations : Registrations) (service : String) (key : Option String) :
    Option Registration :=
  (registrations.find service key).getLast?

def contains (registrations : Registrations) (service : String) (key : Option String) : Bool :=
  (registrations.get? service key).isSome

def follow (registrations : Registrations) (key : Option String) : Nat → Registration →
    Option Registration
  | 0, _ => none
  | fuel + 1, current =>
      match current.implementation with
      | .forward target => (registrations.get? target key).bind (registrations.follow key fuel)
      | _ => some current

/-- The registration that makes the instance: forwards are followed, no more than there are
registrations. -/
def resolveTarget (registrations : Registrations) (service : String) (key : Option String) :
    Option Registration :=
  (registrations.get? service key).bind (registrations.follow key registrations.length)

end Registrations

end Wiring.Container
