import Wiring.Container.Loading
import Wiring.Text.Quoted

/-!
The text that shows a container, and the references of a module, on one line.
-/

set_option autoImplicit false

namespace Wiring.Container

open Wiring.Text

def keyText (key : String) : String :=
  "TypeKey(" ++ quoted key ++ ")"

def Implementation.shown : Implementation → String
  | .type key => "Type(" ++ keyText key ++ ")"
  | .factory name => "Factory(FactoryRef \x7b name: " ++ quoted name ++ ", callable: false \x7d)"
  | .forward service => "Forward(" ++ keyText service ++ ")"

def Registration.shown (registration : Registration) : String :=
  let key :=
    match registration.key with
    | none => "None"
    | some key => "Some(" ++ quoted key ++ ")"
  "ServiceRegistration \x7b service: " ++ keyText registration.service ++ ", key: " ++ key ++
    ", implementation: " ++ registration.implementation.shown ++ ", lifetime: " ++
    registration.lifetime.typeName ++ " \x7d"

def Loaded.shown {μ : Type} (loaded : Loaded μ) : String :=
  "ServiceCollection \x7b registrations: [" ++
    ", ".intercalate (loaded.registrations.map Registration.shown) ++ "], applied_modules: " ++
    toString loaded.applied.length ++ " \x7d"

/-- References; one that has to be called does not show its module. -/
def Family.referencesShown {μ : Type} (family : Family μ)
    (references : List (Reference μ ProviderFailure)) : String :=
  "[" ++ ", ".intercalate (references.map fun
    | .direct module => "Module(" ++ quoted (family.name module) ++ ")"
    | .called _ => "Provider") ++ "]"

end Wiring.Container
