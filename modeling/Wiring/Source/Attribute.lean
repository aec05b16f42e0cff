import Wiring.Declaration.Lifetime
import Wiring.Grammar.Text
import Wiring.Grammar.View

/-!
Which declaration an attribute makes.
-/

set_option autoImplicit false

namespace Wiring.Source

open Wiring.Grammar

def attributeCrates : List String :=
  ["wiregen", "di_macros"]

def deriveNames : List String :=
  ["Context", "FromContext"]

inductive AttributeKind where
  | module
  | service (lifetime : Lifetime)
  | unknown (name : String)
deriving DecidableEq, Repr

def AttributeKind.name : AttributeKind → String
  | .module => "module"
  | .service lifetime => lifetime.attributeName
  | .unknown name => name

def kindOfNames? (names : List String) : Option AttributeKind :=
  match names with
  | [name] => known? name
  | [crate, name] =>
      if attributeCrates.contains crate then
        match known? name with
        | some kind => some kind
        | none => if deriveNames.contains name then none else some (.unknown name)
      else none
  | _ => none
where
  known? (name : String) : Option AttributeKind :=
    if name == "module" then some .module
    else (Lifetime.ofAttribute? name).map .service

def attributeKind? (item : SyntaxTree) : Option AttributeKind :=
  item.attributePath?.bind fun path => kindOfNames? path.pathNames

structure FoundAttribute where
  kind : AttributeKind
  tree : SyntaxTree
  line : Nat

def foundAttributes (trees : List SyntaxTree) : List FoundAttribute :=
  trees.filterMap fun tree => (attributeKind? tree).map fun kind => ⟨kind, tree, tree.line⟩

end Wiring.Source
