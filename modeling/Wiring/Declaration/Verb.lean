/-!
What registering a service does to the registrations that are there already.
-/

set_option autoImplicit false

namespace Wiring

inductive Verb where
  | add
  /-- Append only if the service is not registered yet. -/
  | tryAdd
  /-- Append only if this implementation is not registered for the service yet. -/
  | tryEnumerable
  | replace
deriving DecidableEq, Repr

namespace Verb

def all : List Verb :=
  [.add, .tryAdd, .tryEnumerable, .replace]

def text : Verb → String
  | .add => "add"
  | .tryAdd => "try"
  | .tryEnumerable => "try_enumerable"
  | .replace => "replace"

def typeName : Verb → String
  | .add => "Add"
  | .tryAdd => "Try"
  | .tryEnumerable => "TryEnumerable"
  | .replace => "Replace"

def spellings : Verb → List String
  | .tryAdd => ["try", "Try", "try_add", "TryAdd"]
  | verb => [verb.text, verb.typeName]

def ofText? (text : String) : Option Verb :=
  all.find? fun verb => verb.spellings.contains text

def invalidText (text : String) : String :=
  "Invalid registration type '" ++ text ++
    "'. Valid values: add, try, try_enumerable, replace"

/-- The first verb declared by a registration, its module and its project; else `add`. -/
def resolve (registration module project : Option Verb) : Verb :=
  ((registration.or module).or project).getD .add

end Verb

end Wiring
