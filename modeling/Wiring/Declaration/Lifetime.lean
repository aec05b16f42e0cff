/-!
How long an instance of a service lives.
-/

set_option autoImplicit false

namespace Wiring

inductive Lifetime where
  | transient
  | scoped
  | singleton
deriving DecidableEq, Repr

namespace Lifetime

def all : List Lifetime :=
  [.transient, .scoped, .singleton]

def attributeName : Lifetime → String
  | .transient => "transient"
  | .scoped => "scoped"
  | .singleton => "singleton"

def typeName : Lifetime → String
  | .transient => "Transient"
  | .scoped => "Scoped"
  | .singleton => "Singleton"

def ofAttribute? (name : String) : Option Lifetime :=
  all.find? fun lifetime => lifetime.attributeName == name

def ofText? (text : String) : Option Lifetime :=
  all.find? fun lifetime => lifetime.attributeName == text || lifetime.typeName == text

def invalidText (text : String) : String :=
  "Invalid lifetime '" ++ text ++ "'. Valid values: transient, scoped, singleton"

end Lifetime

end Wiring
