import Wiring.Declaration.Module
import Wiring.Declaration.Service
import Wiring.Json.Decode
import Wiring.Settings.Basic

/-!
Descriptors and settings as JSON. Every field is written; in what is read, fields that have a
default may be absent and unknown ones are ignored.
-/

set_option autoImplicit false

namespace Wiring

open Json

/-! ## Names, lifetimes and verbs -/

def TypeName.toJson (type : TypeName) : Json :=
  .object [("namespace", .string type.space), ("name", .string type.name),
    ("generic_arity", .int type.arity)]

def TypeName.ofJson : Decoder TypeName := fun value => do
  let found ← fieldsOf "struct TypeName"
    [required "namespace" text, required "name" text, defaulted "generic_arity" natural] value
  return ⟨← found.get "namespace" text, ← found.get "name" text,
    ← found.getD "generic_arity" natural 0⟩

def Lifetime.toJson (lifetime : Lifetime) : Json :=
  .string lifetime.attributeName

def Lifetime.ofJson : Decoder Lifetime :=
  enumeration (Lifetime.all.map fun lifetime => (lifetime.attributeName, lifetime))

def Verb.toJson (verb : Verb) : Json :=
  .string verb.text

def Verb.ofJson : Decoder Verb :=
  enumeration (Verb.all.map fun verb => (verb.text, verb))

/-! ## Services -/

def ParameterSource.toJson : ParameterSource → Json
  | .container => .object [("kind", .string "container")]
  | .shared type service =>
      .object [("kind", .string "shared"), ("ty", .string type), ("service", service.toJson)]
  | .cloned type service =>
      .object [("kind", .string "cloned"), ("ty", .string type), ("service", service.toJson)]

inductive SourceKind where
  | container
  | shared
  | cloned
deriving DecidableEq, Repr

def SourceKind.ofJson : Decoder SourceKind
  | .string name =>
      variant [("container", .container), ("shared", .shared), ("cloned", .cloned)] name
  | value => mismatch value "variant identifier"

def sourceContent (name : String) (build : String → TypeName → ParameterSource) :
    Decoder ParameterSource := fun value => do
  let found ← fieldsOf ("struct variant ParameterSource::" ++ name)
    [required "ty" text, required "service" TypeName.ofJson] value
  return build (← found.get "ty" text) (← found.get "service" TypeName.ofJson)

def checkSurplus (kind : SourceKind) (elements : List Json) : Except DecodeError Unit :=
  let held := if kind == .container then 0 else 2
  if held < elements.length then
    .error (.wrongLength elements.length (toString held ++ " elements in sequence"))
  else .ok ()

/-- Reads a source: its kind first, then what that kind holds. -/
def ParameterSource.ofJson : Decoder ParameterSource := fun value =>
  let finish (kind : SourceKind) (content : Json) : Except DecodeError ParameterSource :=
    match kind with
    | .container => .ok .container
    | .shared => sourceContent "Shared" .shared content
    | .cloned => sourceContent "Cloned" .cloned content
  match value with
  | .object members => do
      match (sortMembers members).find? (·.1 == "kind") with
      | none => .error (.missingField "kind")
      | some (_, tag) =>
          finish (← SourceKind.ofJson tag) (.object (members.filter (·.1 != "kind")))
  | .array [] => .error (.missingField "kind")
  | .array (tag :: rest) => do
      let kind ← SourceKind.ofJson tag
      let source ← finish kind (.array (rest.take 2))
      checkSurplus kind rest
      return source
  | other => mismatch other "internally tagged enum ParameterSource"

def FactoryParameter.toJson (parameter : FactoryParameter) : Json :=
  .object [("name", .string parameter.name), ("ty", .string parameter.type),
    ("source", parameter.source.toJson)]

def FactoryParameter.ofJson : Decoder FactoryParameter := fun value => do
  let found ← fieldsOf "struct FactoryParameter"
    [required "name" text, required "ty" text, required "source" ParameterSource.ofJson] value
  return ⟨← found.get "name" text, ← found.get "ty" text,
    ← found.get "source" ParameterSource.ofJson⟩

def FactoryMethod.toJson (factory : FactoryMethod) : Json :=
  .object [("path", .string factory.path),
    ("parameters", .array (factory.parameters.map (·.toJson)))]

def FactoryMethod.ofJson : Decoder FactoryMethod := fun value => do
  let parameters := list FactoryParameter.ofJson
  let found ← fieldsOf "struct FactoryMethod"
    [required "path" text, defaulted "parameters" parameters] value
  return ⟨← found.get "path" text, ← found.getD "parameters" parameters []⟩

def RegistrationModel.toJson (registration : RegistrationModel) : Json :=
  .object [("service", ofOption TypeName.toJson registration.service),
    ("lifetime", registration.lifetime.toJson),
    ("registration_type", ofOption Verb.toJson registration.verb),
    ("realm", ofOption TypeName.toJson registration.realm),
    ("key", ofOption .string registration.key), ("cross_wire", .bool registration.crossWire),
    ("line", .int registration.line)]

def RegistrationModel.ofJson : Decoder RegistrationModel := fun value => do
  let type := Json.optional TypeName.ofJson
  let verb := Json.optional Verb.ofJson
  let key := Json.optional text
  let found ← fieldsOf "struct RegistrationModel"
    [defaulted "service" type, required "lifetime" Lifetime.ofJson,
      defaulted "registration_type" verb, defaulted "realm" type, defaulted "key" key,
      defaulted "cross_wire" boolean, defaulted "line" natural] value
  return ⟨← found.getD "service" type none, ← found.get "lifetime" Lifetime.ofJson,
    ← found.getD "registration_type" verb none, ← found.getD "realm" type none,
    ← found.getD "key" key none, ← found.getD "cross_wire" boolean false,
    ← found.getD "line" natural 0⟩

def ServiceDescriptor.toJson (service : ServiceDescriptor) : Json :=
  .object [("implementation", service.implementation.toJson),
    ("source_file", .string service.sourceFile),
    ("interfaces", .array (service.interfaces.map (·.toJson))),
    ("registrations", .array (service.registrations.map (·.toJson))),
    ("factory", ofOption FactoryMethod.toJson service.factory)]

def ServiceDescriptor.ofJson : Decoder ServiceDescriptor := fun value => do
  let types := list TypeName.ofJson
  let registrations := list RegistrationModel.ofJson
  let factory := Json.optional FactoryMethod.ofJson
  let found ← fieldsOf "struct ServiceDescriptor"
    [required "implementation" TypeName.ofJson, defaulted "source_file" pathText,
      defaulted "interfaces" types, defaulted "registrations" registrations,
      defaulted "factory" factory] value
  return ⟨← found.get "implementation" TypeName.ofJson,
    ← found.getD "source_file" pathText "", ← found.getD "interfaces" types [],
    ← found.getD "registrations" registrations [],
    ← found.getD "factory" factory none⟩

/-! ## Modules -/

def Parameter.toJson (parameter : Parameter) : Json :=
  .object [("name", .string parameter.name), ("ty", .string parameter.type)]

def Parameter.ofJson : Decoder Parameter := fun value => do
  let found ← fieldsOf "struct Parameter" [required "name" text, required "ty" text] value
  return ⟨← found.get "name" text, ← found.get "ty" text⟩

def PropertyOverride.toJson (property : PropertyOverride) : Json :=
  .object [("name", .string property.name), ("value", .string property.value)]

def PropertyOverride.ofJson : Decoder PropertyOverride := fun value => do
  let found ← fieldsOf "struct PropertyOverride"
    [required "name" text, required "value" text] value
  return ⟨← found.get "name" text, ← found.get "value" text⟩

def ModuleReference.toJson (reference : ModuleReference) : Json :=
  .object [("module", reference.module.toJson), ("arguments", strings reference.arguments),
    ("properties", .array (reference.properties.map (·.toJson)))]

def ModuleReference.ofJson : Decoder ModuleReference := fun value => do
  let arguments := list text
  let properties := list PropertyOverride.ofJson
  let found ← fieldsOf "struct ModuleReference"
    [required "module" TypeName.ofJson, defaulted "arguments" arguments,
      defaulted "properties" properties] value
  return ⟨← found.get "module" TypeName.ofJson, ← found.getD "arguments" arguments [],
    ← found.getD "properties" properties []⟩

def ModuleDescriptor.toJson (module : ModuleDescriptor) : Json :=
  .object [("ty", module.type.toJson), ("source_file", .string module.sourceFile),
    ("line", .int module.line), ("auto_generated", .bool module.autoGenerated),
    ("only_realm", .bool module.onlyRealm), ("registration_type", ofOption Verb.toJson module.verb),
    ("generate_attribute", .bool module.generateAttribute),
    ("use_method", ofOption .string module.useMethod),
    ("auto_equality", .bool module.autoEquality), ("configure", .bool module.configure),
    ("features", .array (module.features.map (·.toJson))),
    ("feature_order", .int module.featureOrder),
    ("handles", .array (module.handles.map (·.toJson))),
    ("constructor", .array (module.constructor.map (·.toJson))),
    ("properties", .array (module.properties.map (·.toJson))),
    ("references", .array (module.references.map (·.toJson))),
    ("additional_modules", .array (module.additionalModules.map (·.toJson)))]

def ModuleDescriptor.ofJson : Decoder ModuleDescriptor := fun value => do
  let verb := Json.optional Verb.ofJson
  let method := Json.optional text
  let types := list TypeName.ofJson
  let parameters := list Parameter.ofJson
  let references := list ModuleReference.ofJson
  let found ← fieldsOf "struct ModuleDescriptor"
    [required "ty" TypeName.ofJson, required "source_file" pathText, defaulted "line" natural,
      defaulted "auto_generated" boolean, defaulted "only_realm" boolean,
      defaulted "registration_type" verb, defaulted "generate_attribute" boolean,
      defaulted "use_method" method, defaulted "auto_equality" boolean,
      defaulted "configure" boolean, defaulted "features" types,
      defaulted "feature_order" integer, defaulted "handles" types,
      defaulted "constructor" parameters, defaulted "properties" parameters,
      defaulted "references" references, defaulted "additional_modules" types] value
  return ⟨← found.get "ty" TypeName.ofJson, ← found.get "source_file" pathText,
    ← found.getD "line" natural 0, ← found.getD "auto_generated" boolean false,
    ← found.getD "only_realm" boolean false, ← found.getD "registration_type" verb none,
    ← found.getD "generate_attribute" boolean false, ← found.getD "use_method" method none,
    ← found.getD "auto_equality" boolean false, ← found.getD "configure" boolean false,
    ← found.getD "features" types [], ← found.getD "feature_order" integer 0,
    ← found.getD "handles" types [], ← found.getD "constructor" parameters [],
    ← found.getD "properties" parameters [], ← found.getD "references" references [],
    ← found.getD "additional_modules" types []⟩

/-! ## Settings -/

def LogLevel.toJson (level : LogLevel) : Json :=
  .string level.text

def LogLevel.ofJson : Decoder LogLevel :=
  enumeration (LogLevel.all.map fun level => (level.text, level))

def Settings.toJson (settings : Settings) : Json :=
  .object [("default_registration", ofOption Verb.toJson settings.defaultVerb),
    ("auto_generate_module", .bool settings.autoGenerateModule),
    ("root_namespace", .string settings.rootNamespace),
    ("project_dir", .string settings.projectDir), ("source_dir", .string settings.sourceDir),
    ("program_entry", .string settings.programEntry), ("output_dir", .string settings.outputDir),
    ("generate_attribute", .bool settings.generateAttribute),
    ("log_folder", ofOption .string settings.logFolder), ("log_level", settings.logLevel.toJson)]

/-- Reads settings; what is absent has its default. -/
def Settings.ofJson : Decoder Settings := fun value => do
  let verb := Json.optional Verb.ofJson
  let folder := Json.optional pathText
  let found ← fieldsOf "struct ProjectConfig"
    [defaulted "default_registration" verb, defaulted "auto_generate_module" boolean,
      defaulted "root_namespace" text, defaulted "project_dir" pathText,
      defaulted "source_dir" pathText, defaulted "program_entry" pathText,
      defaulted "output_dir" pathText, defaulted "generate_attribute" boolean,
      defaulted "log_folder" folder, defaulted "log_level" LogLevel.ofJson] value
  let base := Settings.default
  return ⟨← found.getD "default_registration" verb base.defaultVerb,
    ← found.getD "auto_generate_module" boolean base.autoGenerateModule,
    ← found.getD "root_namespace" text base.rootNamespace,
    ← found.getD "project_dir" pathText base.projectDir,
    ← found.getD "source_dir" pathText base.sourceDir,
    ← found.getD "program_entry" pathText base.programEntry,
    ← found.getD "output_dir" pathText base.outputDir,
    ← found.getD "generate_attribute" boolean base.generateAttribute,
    ← found.getD "log_folder" folder base.logFolder,
    ← found.getD "log_level" LogLevel.ofJson base.logLevel⟩

end Wiring
