import Wiring.Json.Descriptors
import Wiring.Source.Arguments
import Wiring.Source.Facts

/-!
Attributes and the facts of source files as JSON. Syntax is written as its code.
-/

set_option autoImplicit false

namespace Wiring.Source

open Wiring.Grammar
open Json

def codeJson (tree : SyntaxTree) : Json :=
  .string tree.text

def AttributeKind.toJson : AttributeKind → Json
  | .module => .string "module"
  | .service lifetime => .object [("service", lifetime.toJson)]
  | .unknown name => .object [("unknown", .string name)]

def ModuleArguments.toJson (found : ModuleArguments) : Json :=
  .object [("only_realm", .bool found.onlyRealm), ("registration", ofOption Verb.toJson found.verb),
    ("generate_attribute", ofOption .bool found.generateAttribute),
    ("use_method", ofOption .string found.useMethod),
    ("auto_equality", .bool found.autoEquality), ("configure", .bool found.configure),
    ("features", .array (found.features.map codeJson)), ("feature_order", .int found.featureOrder),
    ("handles", .array (found.handles.map codeJson)),
    ("depends_on", .array (found.dependsOn.map fun reference =>
      .array [codeJson reference.path, .int reference.arguments.length]))]

def ServiceArguments.toJson (found : ServiceArguments) : Json :=
  .object [("service", ofOption codeJson found.service), ("realm", ofOption codeJson found.realm),
    ("key", ofOption .string found.key), ("registration", ofOption Verb.toJson found.verb),
    ("cross_wire", .bool found.crossWire), ("factory", ofOption codeJson found.factory)]

def importsJson (imports : List (String × String)) : Json :=
  .object (imports.map fun (name, path) => (name, .string path))

def DeclaredItem.toJson (item : DeclaredItem) : Json :=
  .object [("scope", .int item.scope), ("ident", .string item.name), ("line", .int item.line),
    ("type_params", .int item.typeParameters),
    ("fields", .array (item.fields.map fun field =>
      .array [.string field.name, .bool field.isPublic, codeJson field.type])),
    ("attributes", .array (item.attributes.map fun found =>
      .array [found.kind.toJson, .int found.line]))]

def FunctionFacts.toJson (found : FunctionFacts) : Json :=
  .object [("scope", .int found.scope), ("owner", ofOption codeJson found.owner),
    ("name", .string found.name), ("line", .int found.line),
    ("receiver", .bool found.hasReceiver), ("returns_self", .bool found.returnsSelf),
    ("inputs", .array (found.inputs.map fun (name, type) => .array [.string name, codeJson type])),
    ("output", ofOption codeJson found.output)]

def FileFacts.toJson (facts : FileFacts) : Json :=
  .object [
    ("scopes", .array (facts.scopes.map fun scope =>
      .object [("namespace", .string scope.space), ("imports", importsJson scope.imports)])),
    ("items", .array (facts.items.map DeclaredItem.toJson)),
    ("trait_impls", .array (facts.traitImpls.map fun found =>
      .array [.int found.scope, codeJson found.selfPath, codeJson found.traitPath])),
    ("functions", .array (facts.functions.map FunctionFacts.toJson)),
    ("misplaced", .array (facts.misplaced.map fun found =>
      .array [.int found.line, .string found.name])),
    ("declared_modules", strings facts.declaredModules), ("has_main", .bool facts.hasMain),
    ("module_calls", .array (facts.moduleCalls.map fun found =>
      .array [.int found.scope, codeJson found.module]))]

end Wiring.Source
