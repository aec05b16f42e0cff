import Wiring.Generated.Basic
import Wiring.Generated.Names

/-!
What goes with a module: a marker that names it together with its arguments, and a trait that adds
it to a container by a method of its own.
-/

set_option autoImplicit false

namespace Wiring.Generated

open Wiring.Grammar

/-- The marker of a module: a field for each parameter of its constructor, and an optional one for
each property. -/
structure Marker where
  name : SyntaxTree
  shortName : String
  type : SyntaxTree
  parameters : List TypedName
  properties : List TypedName

structure Extension where
  name : SyntaxTree
  shortName : String
  method : SyntaxTree
  type : SyntaxTree
  parameters : List TypedName

def markerOf (module : ModuleDescriptor) (type : SyntaxTree) : Except Failure Marker := do
  let name ← namePart module module.type.dependencyName
  let parameters ← module.constructor.mapM (typedName module)
  let properties ← module.properties.mapM (typedName module)
  return ⟨name, module.type.name, type, parameters, properties⟩

def extensionOf (module : ModuleDescriptor) (type : SyntaxTree) (method : String) :
    Except Failure Extension := do
  let name ← namePart module module.type.extensionName
  let method ← namePart module method
  let parameters ← module.constructor.mapM (typedName module)
  return ⟨name, module.type.name, method, type, parameters⟩

/-! ## Code -/

def documented (text : String) : List SyntaxTree :=
  code "#" ++ [inBrackets (code "doc =" ++ [literalCode text])]

def TypedName.code (typed : TypedName) : List SyntaxTree :=
  [typed.name] ++ Grammar.code ":" ++ [typed.type]

def optionType (type : SyntaxTree) : List SyntaxTree :=
  code ":: std :: option :: Option <" ++ [type] ++ code ">"

def setterName (property : SyntaxTree) : SyntaxTree :=
  let name := (property.text?.getD "").toList
  let name := (Text.dropLeadChars? ['r', '#'] name).getD name
  .ofText .ident ("with_" ++ String.ofList name)

namespace Marker

def structCode (marker : Marker) : List SyntaxTree :=
  documented ("Declares a dependency on `" ++ marker.shortName ++ "`.") ++ code "pub struct" ++
    [marker.name, inBraces
      (marker.parameters.flatMap (fun typed => code "pub" ++ typed.code ++ code ",") ++
        marker.properties.flatMap fun typed =>
          code "pub" ++ [typed.name] ++ code ":" ++ optionType typed.type ++ code ",")]

def newCode (marker : Marker) : List SyntaxTree :=
  function (code "pub fn new") (withCommas (marker.parameters.map TypedName.code))
    (code "-> Self")
    (code "Self" ++ [inBraces
      (marker.parameters.flatMap (fun typed => [typed.name] ++ code ",") ++
        marker.properties.flatMap fun typed =>
          [typed.name] ++ code ": :: std :: option :: Option :: None ,")])

def setterCode (typed : TypedName) : List SyntaxTree :=
  function (code "pub fn" ++ [setterName typed.name])
    (code "mut self , value :" ++ [typed.type]) (code "-> Self")
    (code "self ." ++ [typed.name] ++ code "= :: std :: option :: Option :: Some" ++
      [inParentheses (code "value")] ++ code "; self")

def assignCode (typed : TypedName) : List SyntaxTree :=
  code "if let :: std :: option :: Option :: Some" ++ [inParentheses (code "value")] ++
    code "= self ." ++ [typed.name, inBraces
      (code "module ." ++ [typed.name] ++ code "= value ;")]

def intoCode (marker : Marker) : List SyntaxTree :=
  code "#" ++ [inBrackets (code "allow" ++ [inParentheses (code "unused_mut")])] ++
    function (code "pub fn into_module") (code "self") (code "->" ++ [marker.type])
      (code "let mut module =" ++
        constructed marker.type
          (marker.parameters.map fun typed => code "self ." ++ [typed.name]) ++
        code ";" ++ marker.properties.flatMap assignCode ++ code "module")

def conversionCode (marker : Marker) : List SyntaxTree :=
  code "impl :: std :: convert :: From <" ++ [marker.name] ++ code "> for" ++
    runtime "ModuleRef" ++
    [inBraces (function (code "fn from") (code "marker :" ++ [marker.name]) (code "-> Self")
      (runtime "ModuleRef :: module" ++
        [inParentheses (code "marker . into_module" ++ [inParentheses []])]))]

def code (marker : Marker) : List SyntaxTree :=
  marker.structCode ++ Grammar.code "impl" ++
    [marker.name, inBraces
      (marker.newCode ++ marker.properties.flatMap setterCode ++ marker.intoCode)] ++
    marker.conversionCode

end Marker

namespace Extension

def headCode (extension : Extension) : List SyntaxTree :=
  Grammar.code "fn" ++ [extension.method, inParentheses
    (Grammar.code "& mut self ," ++ withCommas (extension.parameters.map TypedName.code))] ++
    Grammar.code "-> :: std :: result :: Result < & mut Self ," ++ runtime "ModuleError" ++
    Grammar.code ">"

/-- All the code of an extension method: its trait, and what the container does for it. -/
def code (extension : Extension) : List SyntaxTree :=
  Grammar.code "pub trait" ++ [extension.name, inBraces
    (documented ("Adds `" ++ extension.shortName ++ "` and every module it references.") ++
      extension.headCode ++ Grammar.code ";")] ++
    Grammar.code "impl" ++ [extension.name] ++ Grammar.code "for" ++ runtime "ServiceCollection" ++
    [inBraces (extension.headCode ++ [inBraces
      (runtime "ServiceCollectionExt :: add_module" ++
        [inParentheses (Grammar.code "self ," ++ constructed extension.type
          (extension.parameters.map fun typed => [typed.name]))])])]

end Extension

end Wiring.Generated
