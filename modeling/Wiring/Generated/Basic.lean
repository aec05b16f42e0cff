import Wiring.Declaration.Module
import Wiring.Failure
import Wiring.Grammar.Code
import Wiring.Grammar.Parse
import Wiring.Grammar.Text

/-!
Generated units, and how the texts of a module become parts of them. A text that is no code of its
kind is reported at the declaration of the module.
-/

set_option autoImplicit false

namespace Wiring

open Wiring.Grammar

def generatedHeader : String :=
  "// @generated by wiregen. Do not edit by hand.\n"

structure GeneratedFile where
  name : String
  contents : String
deriving DecidableEq, Repr

def GeneratedFile.ofCode (name : String) (code : List SyntaxTree) : GeneratedFile :=
  ⟨name, generatedHeader ++ SyntaxTree.textOf code ++ "\n"⟩

namespace Generated

/-! ## Texts as code -/

def part (module : ModuleDescriptor) (what : String) (form : Nested → Reader SyntaxTree)
    (text : String) : Except Failure SyntaxTree :=
  match parseText form text with
  | .ok tree => .ok tree
  | .error error =>
      .error (.malformed module.sourceFile module.line
        ("module " ++ module.id ++ ": invalid " ++ what ++ " `" ++ text ++ "`: " ++
          error.message))

def pathPart (module : ModuleDescriptor) (text : String) : Except Failure SyntaxTree :=
  part module "path" pathForm text

def typePart (module : ModuleDescriptor) (text : String) : Except Failure SyntaxTree :=
  part module "type" typeForm text

def exprPart (module : ModuleDescriptor) (text : String) : Except Failure SyntaxTree :=
  part module "expression" exprForm text

def namePart (module : ModuleDescriptor) (text : String) : Except Failure SyntaxTree :=
  part module "name" nameForm text

structure TypedName where
  name : SyntaxTree
  type : SyntaxTree

def typedName (module : ModuleDescriptor) (parameter : Parameter) : Except Failure TypedName := do
  return ⟨← namePart module parameter.name, ← typePart module parameter.type⟩

/-! ## Common code -/

def runtime (name : String) : List SyntaxTree :=
  code (":: wiregen :: runtime :: " ++ name)

def function (head inputs output body : List SyntaxTree) : List SyntaxTree :=
  head ++ [inParentheses inputs] ++ output ++ [inBraces body]

def defaultValue (type : SyntaxTree) : List SyntaxTree :=
  code "<" ++ [type] ++ code "as :: std :: default :: Default > :: default" ++ [inParentheses []]

/-- The value that a type constructs from arguments; from none it is the default one. -/
def constructed (type : SyntaxTree) (arguments : List (List SyntaxTree)) : List SyntaxTree :=
  if arguments.isEmpty then defaultValue type
  else [type] ++ code ":: new" ++ [inParentheses (withCommas arguments)]

def listCode (values : List (List SyntaxTree)) : List SyntaxTree :=
  code ":: std :: vec !" ++ [inBrackets (withCommas values)]

def keyCode (key : String) : List SyntaxTree :=
  runtime "TypeKey :: named" ++ [inParentheses [literalCode key]]

def listType (element : List SyntaxTree) : List SyntaxTree :=
  code ":: std :: vec :: Vec <" ++ element ++ code ">"

def registrationsFunction : String :=
  "__wiregen_registrations"

end Generated

end Wiring
