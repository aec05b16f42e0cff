import Wiring.Generated.Companion

/-!
The unit that makes a type a module: what it refers to, how it registers its services, and which
features it provides and handles.
-/

set_option autoImplicit false

namespace Wiring.Generated

open Wiring.Grammar

/-- How a referenced module is constructed: from arguments, and with values for properties. -/
structure Construction where
  type : SyntaxTree
  arguments : List SyntaxTree
  values : List (SyntaxTree × SyntaxTree)

structure Facade where
  type : SyntaxTree
  id : String
  declared : Option SyntaxTree
  references : List Construction
  extras : List SyntaxTree
  hasRegistrations : Bool
  configure : Bool
  autoEquality : Bool
  features : List String
  featureOrder : Int
  handles : List String
  marker : Option Marker
  extension : Option Extension

/-! ## Parts -/

def constructionOf (module : ModuleDescriptor) (reference : ModuleReference) :
    Except Failure Construction := do
  let type ← pathPart module reference.module.fullName
  let arguments ← reference.arguments.mapM (exprPart module)
  let values ← reference.properties.mapM fun property => do
    return (← namePart module property.name, ← exprPart module property.value)
  return ⟨type, arguments, values⟩

def declaredName (module : ModuleDescriptor) : Except Failure (Option SyntaxTree) :=
  if module.autoGenerated then (namePart module module.type.name).map some else .ok none

def markerIfAsked (module : ModuleDescriptor) (type : SyntaxTree) :
    Except Failure (Option Marker) :=
  if module.generateAttribute then (markerOf module type).map some else .ok none

def extensionIfAsked (module : ModuleDescriptor) (type : SyntaxTree) :
    Except Failure (Option Extension) :=
  match module.useMethod with
  | some method => (extensionOf module type method).map some
  | none => .ok none

def facadeOf (module : ModuleDescriptor) (hasRegistrations : Bool) : Except Failure Facade := do
  let type ← pathPart module module.type.fullName
  let declared ← declaredName module
  let references ← module.references.mapM (constructionOf module)
  let extras ← module.additionalModules.mapM fun extra => pathPart module extra.fullName
  let marker ← markerIfAsked module type
  let extension ← extensionIfAsked module type
  return ⟨type, module.id, declared, references, extras, hasRegistrations, module.configure,
    module.autoEquality, module.features.map TypeName.key, module.featureOrder,
    module.handles.map TypeName.key, marker, extension⟩

/-! ## Code -/

def Construction.base (construction : Construction) : List SyntaxTree :=
  constructed construction.type (construction.arguments.map fun argument => [argument])

def Construction.code (construction : Construction) : List SyntaxTree :=
  if construction.values.isEmpty then construction.base
  else
    [inBraces (Grammar.code "let mut module =" ++ construction.base ++ Grammar.code ";" ++
      construction.values.flatMap (fun (name, value) =>
        Grammar.code "module ." ++ [name] ++ Grammar.code "=" ++ [value] ++ Grammar.code ";") ++
      Grammar.code "module")]

def numberCode (n : Int) : List SyntaxTree :=
  let literal : SyntaxTree :=
    .token .literal (toString n.natAbs ++ "i32") 1 (isWhole_toString_append n.natAbs (by decide))
  if n < 0 then code "-" ++ [literal] else [literal]

namespace Facade

def declarationCode (name : SyntaxTree) : List SyntaxTree :=
  code "#" ++ [inBrackets (code "doc =" ++ [.ofText .literal
      "r\" Whole-program module collecting every module added in the entry point.\""])] ++
    code "#" ++ [inBrackets (code "derive" ++ [inParentheses
      (code "Debug , Default , Clone , Copy , PartialEq , Eq , Hash")])] ++
    code "pub struct" ++ [name] ++ code ";"

def referencesCode (method : String) (values : List (List SyntaxTree)) : List SyntaxTree :=
  if values.isEmpty then []
  else
    function (code ("fn " ++ method)) (code "& self")
      (code "->" ++ listType (runtime "ModuleRef"))
      (listCode (values.map fun value => runtime "ModuleRef :: module" ++ [inParentheses value]))

def servicesInput (name : String) : List SyntaxTree :=
  code ("& self , " ++ name ++ " : & mut") ++ runtime "ServiceCollection"

def applyCode (hasRegistrations : Bool) : List SyntaxTree :=
  if hasRegistrations then
    function (code "fn apply_services") (servicesInput "services") []
      (code "services . apply_all" ++
        [inParentheses (code ("Self :: " ++ registrationsFunction) ++ [inParentheses []])] ++
        code ";")
  else function (code "fn apply_services") (servicesInput "_services") [] []

def configureCode (isAsked : Bool) : List SyntaxTree :=
  if isAsked then
    function (code "fn configure") (servicesInput "services") []
      (code "< Self as" ++ runtime "ConfigureServices > :: configure" ++
        [inParentheses (code "self , services")] ++ code ";")
  else []

def equalityCode (isAsked : Bool) : List SyntaxTree :=
  if isAsked then
    function (code "fn module_eq") (code "& self , other : & dyn" ++ runtime "DependencyModule")
      (code "-> bool") (runtime "value_eq" ++ [inParentheses (code "self , other")])
  else []

def featuresCode (method : String) (features : List String) : List SyntaxTree :=
  function (code ("fn " ++ method)) (code "& self") (code "->" ++ listType (runtime "TypeKey"))
    (listCode (features.map keyCode))

def providerCode (features : List String) (order : Int) : List SyntaxTree :=
  if features.isEmpty then []
  else
    featuresCode "provided_features" features ++
      function (code "fn feature_order") (code "& self") (code "-> i32") (numberCode order)

def handlerCode (features : List String) : List SyntaxTree :=
  if features.isEmpty then []
  else
    featuresCode "handled_features" features ++
      function (code "fn handle_feature")
        (code "& self , feature : &" ++ runtime "TypeKey" ++ code ", providers : &" ++
          [inBrackets (code ":: std :: sync :: Arc < dyn" ++ runtime "DependencyModule >")] ++
          code ", services : & mut" ++ runtime "ServiceCollection ,")
        []
        (code "< Self as" ++ runtime "FeatureHandler > :: handle_feature" ++
          [inParentheses (code "self , feature , providers , services")] ++ code ";")

def methodsCode (facade : Facade) : List SyntaxTree :=
  function (code "fn module_name") (code "& self") (code "-> & 'static str")
      [literalCode facade.id] ++
    referencesCode "referenced_modules" (facade.references.map Construction.code) ++
    referencesCode "extra_modules" (facade.extras.map defaultValue) ++
    applyCode facade.hasRegistrations ++ configureCode facade.configure ++
    equalityCode facade.autoEquality ++ providerCode facade.features facade.featureOrder ++
    handlerCode facade.handles

def code (facade : Facade) : List SyntaxTree :=
  ((facade.declared.map declarationCode).getD []) ++
    Grammar.code "impl" ++ runtime "DependencyModule for" ++
    [facade.type, inBraces facade.methodsCode] ++
    ((facade.marker.map Marker.code).getD []) ++
    ((facade.extension.map Extension.code).getD [])

end Facade

def facadeFile (module : ModuleDescriptor) (hasRegistrations : Bool) :
    Except Failure GeneratedFile :=
  (facadeOf module hasRegistrations).map fun facade =>
    .ofCode module.type.facadeFile facade.code

end Wiring.Generated
