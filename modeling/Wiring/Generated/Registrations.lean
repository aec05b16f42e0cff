import Wiring.Generated.Basic
import Wiring.Generated.Names
import Wiring.Plan.Operations

/-!
The unit that holds the registrations of a module: its operations in their order, and the glue
functions that its factories need.
-/

set_option autoImplicit false

namespace Wiring.Generated

open Wiring.Container
open Wiring.Grammar
open Wiring.Plan

/-! ## Parts -/

/-- A glue function: its name, the path of its factory and how each argument is looked up. -/
structure Glue where
  name : SyntaxTree
  path : SyntaxTree
  arguments : List (List SyntaxTree)

structure RegistrationsUnit where
  type : SyntaxTree
  operations : List (List SyntaxTree)
  glue : List Glue

def isGlue (resolved : ResolvedModule) (name : String) : Bool :=
  resolved.glueFactories.any fun factory => factory.glueName == name

/-- The code that a factory is called by: its glue function, which belongs to the module, or its
own path. -/
def callableOf (module : ModuleDescriptor) (owner : SyntaxTree) (resolved : ResolvedModule)
    (name : String) : Except Failure (List SyntaxTree) :=
  if isGlue resolved name then
    (namePart module name).map fun glue => [owner] ++ code "::" ++ [glue]
  else (pathPart module name).map fun path => [path]

def implementationCode (module : ModuleDescriptor) (owner : SyntaxTree)
    (resolved : ResolvedModule) : Implementation → Except Failure (List SyntaxTree)
  | .type key =>
      .ok (runtime "Implementation :: Type" ++ [inParentheses (keyCode key)])
  | .forward service =>
      .ok (runtime "Implementation :: Forward" ++ [inParentheses (keyCode service)])
  | .factory name =>
      (callableOf module owner resolved name).map fun callable =>
        runtime "Implementation :: Factory" ++
          [inParentheses (runtime "FactoryRef :: new" ++
            [inParentheses ([literalCode name] ++ code "," ++ callable)])]

def registrationCode (module : ModuleDescriptor) (owner : SyntaxTree) (resolved : ResolvedModule)
    (registration : Registration) : Except Failure (List SyntaxTree) :=
  (implementationCode module owner resolved registration.implementation).map
    fun implementation =>
      runtime "ServiceRegistration :: new" ++
        [inParentheses (keyCode registration.service ++ code "," ++ implementation ++ code "," ++
          runtime ("Lifetime :: " ++ registration.lifetime.typeName) ++ code ",")] ++
        match registration.key with
        | some key => code ". with_key" ++ [inParentheses [literalCode key]]
        | none => []

def operationName : Operation → String
  | .addStandard _ => "AddStandard"
  | .addKeyed _ => "AddKeyed"
  | .tryAdd _ => "TryAdd"
  | .tryAddEnumerable _ => "TryAddEnumerable"
  | .replace _ => "Replace"
  | .crossWire _ _ _ => "CrossWire"

def operationRegistration : Operation → Registration
  | .addStandard registration => registration
  | .addKeyed registration => registration
  | .tryAdd registration => registration
  | .tryAddEnumerable registration => registration
  | .replace registration => registration
  | .crossWire registration _ _ => registration

def operationCode (module : ModuleDescriptor) (owner : SyntaxTree) (resolved : ResolvedModule)
    (operation : Operation) : Except Failure (List SyntaxTree) :=
  (registrationCode module owner resolved (operationRegistration operation)).map
    fun registration =>
      let head := runtime ("RegistrationOp :: " ++ operationName operation)
      match operation with
      | .crossWire _ interfaces verb =>
          head ++ [inBraces (code "registration :" ++ registration ++ code ", interfaces :" ++
            listCode (interfaces.map keyCode) ++ code ", verb :" ++
            runtime ("RegistrationType :: " ++ verb.typeName) ++ code ",")]
      | _ => head ++ [inParentheses registration]

/-! ## Glue -/

def requireCode (type : SyntaxTree) (service : TypeName) : List SyntaxTree :=
  code "resolver . require :: <" ++ [type] ++ code ">" ++
    [inParentheses (code "&" ++ keyCode service.key)] ++ code "?"

def argumentCode (module : ModuleDescriptor) : ParameterSource → Except Failure (List SyntaxTree)
  | .container => .ok (code "resolver")
  | .shared type service => (typePart module type).map fun type => requireCode type service
  | .cloned type service =>
      (typePart module type).map fun type =>
        code ":: std :: clone :: Clone :: clone" ++
          [inParentheses (code "& *" ++ requireCode type service)]

def glueOf (module : ModuleDescriptor) (factory : FactoryMethod) : Except Failure Glue := do
  let name ← namePart module factory.glueName
  let path ← pathPart module factory.path
  let arguments ← factory.parameters.mapM fun parameter => argumentCode module parameter.source
  return ⟨name, path, arguments⟩

def hiddenCode : List SyntaxTree :=
  code "#" ++ [inBrackets (code "doc" ++ [inParentheses (code "hidden")])]

def Glue.code (glue : Glue) : List SyntaxTree :=
  hiddenCode ++
    function (Grammar.code "fn" ++ [glue.name])
      (Grammar.code "resolver : & dyn" ++ runtime "ServiceResolver ,")
      (Grammar.code "-> :: std :: result :: Result <" ++ runtime "Instance ," ++
        runtime "ResolveError >")
      (Grammar.code ":: std :: result :: Result :: Ok" ++
        [inParentheses (runtime "instance" ++
          [inParentheses (Grammar.code ":: std :: sync :: Arc :: new" ++
            [inParentheses ([glue.path] ++ [inParentheses (withCommas glue.arguments)])])])])

/-! ## Units -/

def registrationsUnitOf (module : ModuleDescriptor) (resolved : ResolvedModule)
    (operations : List Operation) : Except Failure RegistrationsUnit := do
  let type ← pathPart module module.type.fullName
  let operations ← operations.mapM (operationCode module type resolved)
  let glue ← resolved.glueFactories.mapM (glueOf module)
  return ⟨type, operations, glue⟩

def lazyCode : String :=
  ":: wiregen :: __private :: once_cell :: sync :: Lazy"

def RegistrationsUnit.code (unit : RegistrationsUnit) : List SyntaxTree :=
  Grammar.code "impl" ++ [unit.type, inBraces
    (hiddenCode ++
      function (Grammar.code ("pub fn " ++ registrationsFunction)) []
        (Grammar.code "-> & 'static" ++ [inBrackets (runtime "RegistrationOp")])
        (Grammar.code ("static REGISTRATIONS : " ++ lazyCode ++ " <") ++
          listType (runtime "RegistrationOp") ++
          Grammar.code (", > = " ++ lazyCode ++ " :: new") ++
          [inParentheses (Grammar.code "||" ++ [inBraces (listCode unit.operations)])] ++
          Grammar.code "; REGISTRATIONS . as_slice" ++ [inParentheses []]) ++
      unit.glue.flatMap Glue.code)]

def registrationsFile (module : ModuleDescriptor) (resolved : ResolvedModule)
    (operations : List Operation) : Except Failure GeneratedFile :=
  (registrationsUnitOf module resolved operations).map fun unit =>
    .ofCode module.type.registrationsFile unit.code

end Wiring.Generated
