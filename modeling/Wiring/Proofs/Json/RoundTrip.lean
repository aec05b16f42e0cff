import Wiring.Json.Descriptors
import Wiring.Proofs.Json.Codec

/-!
# Round trips of descriptors and settings

Main statement (`descriptors_round_trip`): a type name, a parameter of a factory, a factory, a
registration, a service, a dependency, a module and the settings are each read back from what is
written of them, also after fields that hold their defaults were left out and unknown members were
added at any depth; and what was once read is read again from what is written of it.
-/

set_option autoImplicit false

namespace Wiring

open Json

/-! ## The fields of each record -/

def TypeName.edits : Edits :=
  .record [⟨"namespace", none, .fixed⟩, ⟨"name", none, .fixed⟩,
    ⟨"generic_arity", some (.int 0), .fixed⟩]

def ParameterSource.contentEdits : List FieldEdits :=
  [⟨"ty", none, .fixed⟩, ⟨"service", none, TypeName.edits⟩]

def ParameterSource.edits : Edits :=
  .tagged "kind" [("container", []), ("shared", contentEdits), ("cloned", contentEdits)]

def FactoryParameter.edits : Edits :=
  .record [⟨"name", none, .fixed⟩, ⟨"ty", none, .fixed⟩, ⟨"source", none, ParameterSource.edits⟩]

def FactoryMethod.edits : Edits :=
  .record [⟨"path", none, .fixed⟩, ⟨"parameters", some (.array []), .list FactoryParameter.edits⟩]

def RegistrationModel.edits : Edits :=
  .record [⟨"service", some .null, .optional TypeName.edits⟩, ⟨"lifetime", none, .fixed⟩,
    ⟨"registration_type", some .null, .optional .fixed⟩,
    ⟨"realm", some .null, .optional TypeName.edits⟩, ⟨"key", some .null, .optional .fixed⟩,
    ⟨"cross_wire", some (.bool false), .fixed⟩, ⟨"line", some (.int 0), .fixed⟩]

def ServiceDescriptor.edits : Edits :=
  .record [⟨"implementation", none, TypeName.edits⟩, ⟨"source_file", some (.string ""), .fixed⟩,
    ⟨"interfaces", some (.array []), .list TypeName.edits⟩,
    ⟨"registrations", some (.array []), .list RegistrationModel.edits⟩,
    ⟨"factory", some .null, .optional FactoryMethod.edits⟩]

def Parameter.edits : Edits :=
  .record [⟨"name", none, .fixed⟩, ⟨"ty", none, .fixed⟩]

def PropertyOverride.edits : Edits :=
  .record [⟨"name", none, .fixed⟩, ⟨"value", none, .fixed⟩]

def ModuleReference.edits : Edits :=
  .record [⟨"module", none, TypeName.edits⟩, ⟨"arguments", some (.array []), .list .fixed⟩,
    ⟨"properties", some (.array []), .list PropertyOverride.edits⟩]

def ModuleDescriptor.edits : Edits :=
  .record [⟨"ty", none, TypeName.edits⟩, ⟨"source_file", none, .fixed⟩,
    ⟨"line", some (.int 0), .fixed⟩, ⟨"auto_generated", some (.bool false), .fixed⟩,
    ⟨"only_realm", some (.bool false), .fixed⟩,
    ⟨"registration_type", some .null, .optional .fixed⟩,
    ⟨"generate_attribute", some (.bool false), .fixed⟩,
    ⟨"use_method", some .null, .optional .fixed⟩, ⟨"auto_equality", some (.bool false), .fixed⟩,
    ⟨"configure", some (.bool false), .fixed⟩,
    ⟨"features", some (.array []), .list TypeName.edits⟩,
    ⟨"feature_order", some (.int 0), .fixed⟩,
    ⟨"handles", some (.array []), .list TypeName.edits⟩,
    ⟨"constructor", some (.array []), .list Parameter.edits⟩,
    ⟨"properties", some (.array []), .list Parameter.edits⟩,
    ⟨"references", some (.array []), .list ModuleReference.edits⟩,
    ⟨"additional_modules", some (.array []), .list TypeName.edits⟩]

def Settings.edits : Edits :=
  .record [⟨"default_registration", some .null, .optional .fixed⟩,
    ⟨"auto_generate_module", some (.bool false), .fixed⟩,
    ⟨"root_namespace", some (.string "crate"), .fixed⟩,
    ⟨"project_dir", some (.string "."), .fixed⟩, ⟨"source_dir", some (.string "src"), .fixed⟩,
    ⟨"program_entry", some (.string "src/main.rs"), .fixed⟩,
    ⟨"output_dir", some (.string "target/wiregen"), .fixed⟩,
    ⟨"generate_attribute", some (.bool false), .fixed⟩,
    ⟨"log_folder", some .null, .optional .fixed⟩, ⟨"log_level", some (.string "info"), .fixed⟩]

/-! ## Numbers in their range -/

def TypeName.InRange (type : TypeName) : Prop :=
  type.arity < 2 ^ 64

def ParameterSource.InRange : ParameterSource → Prop
  | .container => True
  | .shared _ service | .cloned _ service => service.InRange

def FactoryParameter.InRange (parameter : FactoryParameter) : Prop :=
  parameter.source.InRange

def FactoryMethod.InRange (factory : FactoryMethod) : Prop :=
  ∀ parameter ∈ factory.parameters, parameter.InRange

def RegistrationModel.InRange (registration : RegistrationModel) : Prop :=
  (∀ type ∈ registration.service, type.InRange) ∧ (∀ type ∈ registration.realm, type.InRange) ∧
    registration.line < 2 ^ 64

def ServiceDescriptor.InRange (service : ServiceDescriptor) : Prop :=
  service.implementation.InRange ∧ (∀ type ∈ service.interfaces, type.InRange) ∧
    (∀ registration ∈ service.registrations, registration.InRange) ∧
    ∀ factory ∈ service.factory, factory.InRange

def ModuleReference.InRange (reference : ModuleReference) : Prop :=
  reference.module.InRange

def ModuleDescriptor.InRange (module : ModuleDescriptor) : Prop :=
  module.type.InRange ∧ module.line < 2 ^ 64 ∧ (∀ type ∈ module.features, type.InRange) ∧
    (-2 ^ 31 ≤ module.featureOrder ∧ module.featureOrder < 2 ^ 31) ∧
    (∀ type ∈ module.handles, type.InRange) ∧
    (∀ reference ∈ module.references, reference.InRange) ∧
    ∀ type ∈ module.additionalModules, type.InRange

/-! ## Names, lifetimes and verbs -/

def TypeName.fields : List (FieldCodec TypeName) := [
  .required "namespace" .text (·.space), .required "name" .text (·.name),
  .defaulted "generic_arity" .natural 0 (by decide) (·.arity)]

theorem TypeName.codec :
    Codec TypeName.toJson TypeName.ofJson TypeName.edits TypeName.InRange := by
  refine Codec.record "struct TypeName" fields (by decide) ?written ?reads ?range
  case written => exact fun _ => rfl
  case reads =>
    rintro given ⟨⟩
    simp [TypeName.ofJson, fields, Outcome.bind_eq_ok_iff, Outcome.pure_eq_ok_iff,
      -bind_pure_comp]
  case range => simp [TypeName.InRange, fields]

theorem TypeName.ofJson_null (type : TypeName) : TypeName.ofJson .null ≠ .ok type :=
  nofun

theorem Lifetime.codec : Codec Lifetime.toJson Lifetime.ofJson .fixed fun _ => True :=
  .choice (fun lifetime => by cases lifetime <;> decide) (by decide)

theorem Verb.codec : Codec Verb.toJson Verb.ofJson .fixed fun _ => True :=
  .choice (fun verb => by cases verb <;> decide) (by decide)

theorem LogLevel.codec : Codec LogLevel.toJson LogLevel.ofJson .fixed fun _ => True :=
  .choice (fun level => by cases level <;> decide) (by decide)

/-! ## Sources of arguments -/

namespace ParameterSource

def contentFields : List (FieldCodec (String × TypeName)) := [
  .required "ty" .text (·.1), .required "service" TypeName.codec (·.2)]

def contentToJson (content : String × TypeName) : Json :=
  .object [("ty", .string content.1), ("service", content.2.toJson)]

def contentOfJson (name : String) : Decoder (String × TypeName) := fun given => do
  let found ← fieldsOf ("struct variant ParameterSource::" ++ name)
    [Json.required "ty" text, Json.required "service" TypeName.ofJson] given
  return (← found.get "ty" text, ← found.get "service" TypeName.ofJson)

theorem contentCodec (name : String) :
    Codec contentToJson (contentOfJson name) (.record contentEdits) fun content =>
      content.2.InRange := by
  refine Codec.record ("struct variant ParameterSource::" ++ name) contentFields (by decide)
    ?written ?reads ?range
  case written => exact fun _ => rfl
  case reads =>
    rintro given ⟨⟩
    simp [contentOfJson, contentFields, Outcome.bind_eq_ok_iff, Outcome.pure_eq_ok_iff,
      -bind_pure_comp]
  case range => simp [contentFields]

theorem sourceContent_eq_ok_iff {name : String} {build : String → TypeName → ParameterSource}
    {given : Json} {source : ParameterSource} :
    sourceContent name build given = .ok source ↔
      ∃ content, contentOfJson name given = .ok content ∧ build content.1 content.2 = source := by
  simp only [sourceContent, contentOfJson, Outcome.bind_eq_ok_iff, Outcome.pure_eq_ok_iff]
  constructor
  · rintro ⟨found, fields, type, typeRead, service, serviceRead, rfl⟩
    exact ⟨(type, service), ⟨found, fields, type, typeRead, service, serviceRead, rfl⟩, rfl⟩
  · rintro ⟨_, ⟨found, fields, type, typeRead, service, serviceRead, rfl⟩, rfl⟩
    exact ⟨found, fields, type, typeRead, service, serviceRead, rfl⟩

theorem sourceContent_fits {name : String} {build : String → TypeName → ParameterSource}
    {given : Json} {source : ParameterSource}
    (keeps : ∀ type service, (build type service).InRange ↔ service.InRange)
    (read : sourceContent name build given = .ok source) : source.InRange := by
  obtain ⟨content, held, rfl⟩ := sourceContent_eq_ok_iff.mp read
  exact (keeps _ _).mpr ((contentCodec name).fits held)

section Objects

variable {members : List (String × Json)} {kind : String}

theorem valueOf?_kind (tagged : valueOf? "kind" members = some (.string kind)) :
    ∃ entry, (sortMembers members).find? (·.1 == "kind") = some entry ∧
      entry.2 = .string kind := by
  rwa [valueOf?, ← find?_sortMembers, Option.map_eq_some_iff] at tagged

theorem ofJson_container (tagged : valueOf? "kind" members = some (.string "container")) :
    ParameterSource.ofJson (.object members) = .ok .container := by
  obtain ⟨⟨name, _⟩, found, rfl⟩ := valueOf?_kind tagged
  simp only [ParameterSource.ofJson, found]
  rfl

theorem ofJson_shared (tagged : valueOf? "kind" members = some (.string "shared")) :
    ParameterSource.ofJson (.object members) =
      sourceContent "Shared" .shared (.object (members.filter (·.1 != "kind"))) := by
  obtain ⟨⟨name, _⟩, found, rfl⟩ := valueOf?_kind tagged
  simp only [ParameterSource.ofJson, found]
  rfl

theorem ofJson_cloned (tagged : valueOf? "kind" members = some (.string "cloned")) :
    ParameterSource.ofJson (.object members) =
      sourceContent "Cloned" .cloned (.object (members.filter (·.1 != "kind"))) := by
  obtain ⟨⟨name, _⟩, found, rfl⟩ := valueOf?_kind tagged
  simp only [ParameterSource.ofJson, found]
  rfl

end Objects

theorem sourceContent_of_ofJson {given : Json} {source : ParameterSource}
    (read : ParameterSource.ofJson given = .ok source) :
    source = .container ∨ (∃ content, sourceContent "Shared" .shared content = .ok source) ∨
      ∃ content, sourceContent "Cloned" .cloned content = .ok source := by
  unfold ParameterSource.ofJson at read
  split at read
  · split at read
    · cases read
    · obtain ⟨kind, -, read⟩ := Outcome.bind_eq_ok_iff.mp read
      cases kind with
      | container => exact .inl (Except.ok.inj read).symm
      | shared => exact .inr (.inl ⟨_, read⟩)
      | cloned => exact .inr (.inr ⟨_, read⟩)
  · cases read
  · obtain ⟨kind, -, read⟩ := Outcome.bind_eq_ok_iff.mp read
    obtain ⟨found, held, rest⟩ := Outcome.bind_eq_ok_iff.mp read
    obtain ⟨-, -, same⟩ := Outcome.bind_eq_ok_iff.mp rest
    obtain rfl := Outcome.pure_eq_ok_iff.mp same
    cases kind with
    | container => exact .inl (Except.ok.inj held).symm
    | shared => exact .inr (.inl ⟨_, held⟩)
    | cloned => exact .inr (.inr ⟨_, held⟩)
  · cases read

section Kinds

variable {type : String} {service : TypeName} {changed : Json}

theorem edits_container_iff :
    ParameterSource.edits ParameterSource.container.toJson changed ↔
      ∃ edited, changed = .object edited ∧
        valueOf? "kind" edited = some (.string "container") ∧
          Edits.record [] (.object []) (.object (edited.filter (·.1 != "kind"))) :=
  Edits.tagged_object_iff (by decide) (.head _) (by simp) rfl

theorem edits_shared_iff :
    ParameterSource.edits (ParameterSource.shared type service).toJson changed ↔
      ∃ edited, changed = .object edited ∧ valueOf? "kind" edited = some (.string "shared") ∧
        Edits.record contentEdits (contentToJson (type, service))
          (.object (edited.filter (·.1 != "kind"))) :=
  Edits.tagged_object_iff (by decide) (.tail _ (.head _)) (by decide) rfl

theorem edits_cloned_iff :
    ParameterSource.edits (ParameterSource.cloned type service).toJson changed ↔
      ∃ edited, changed = .object edited ∧ valueOf? "kind" edited = some (.string "cloned") ∧
        Edits.record contentEdits (contentToJson (type, service))
          (.object (edited.filter (·.1 != "kind"))) :=
  Edits.tagged_object_iff (by decide) (.tail _ (.tail _ (.head _))) (by decide) rfl

end Kinds

theorem codec :
    Codec ParameterSource.toJson ParameterSource.ofJson ParameterSource.edits
      ParameterSource.InRange where
  unedited := by
    intro source fits
    cases source with
    | container =>
        exact edits_container_iff.mpr
          ⟨_, rfl, rfl, Edits.record_object_iff.mpr ⟨_, rfl, by simp⟩⟩
    | shared type service =>
        have held : Edits.record contentEdits (contentToJson (type, service))
            (contentToJson (type, service)) := (contentCodec "Shared").unedited fits
        exact edits_shared_iff.mpr ⟨_, rfl, rfl, held⟩
    | cloned type service =>
        have held : Edits.record contentEdits (contentToJson (type, service))
            (contentToJson (type, service)) := (contentCodec "Cloned").unedited fits
        exact edits_cloned_iff.mpr ⟨_, rfl, rfl, held⟩
  read := by
    intro source changed fits edits
    cases source with
    | container =>
        obtain ⟨edited, rfl, tagged, -⟩ := edits_container_iff.mp edits
        exact ofJson_container tagged
    | shared type service =>
        obtain ⟨edited, rfl, tagged, held⟩ := edits_shared_iff.mp edits
        rw [ofJson_shared tagged, sourceContent_eq_ok_iff]
        exact ⟨(type, service), (contentCodec "Shared").read fits held, rfl⟩
    | cloned type service =>
        obtain ⟨edited, rfl, tagged, held⟩ := edits_cloned_iff.mp edits
        rw [ofJson_cloned tagged, sourceContent_eq_ok_iff]
        exact ⟨(type, service), (contentCodec "Cloned").read fits held, rfl⟩
  fits := by
    intro given source read
    rcases sourceContent_of_ofJson read with rfl | ⟨content, read⟩ | ⟨content, read⟩
    · trivial
    · exact sourceContent_fits (fun _ _ => .rfl) read
    · exact sourceContent_fits (fun _ _ => .rfl) read

end ParameterSource

/-! ## Factories and services -/

def FactoryParameter.fields : List (FieldCodec FactoryParameter) := [
  .required "name" .text (·.name), .required "ty" .text (·.type),
  .required "source" ParameterSource.codec (·.source)]

theorem FactoryParameter.codec :
    Codec FactoryParameter.toJson FactoryParameter.ofJson FactoryParameter.edits
      FactoryParameter.InRange := by
  refine Codec.record "struct FactoryParameter" fields (by decide) ?written ?reads ?range
  case written => exact fun _ => rfl
  case reads =>
    rintro given ⟨⟩
    simp [FactoryParameter.ofJson, fields, Outcome.bind_eq_ok_iff, Outcome.pure_eq_ok_iff,
      -bind_pure_comp]
  case range => simp [FactoryParameter.InRange, fields]

def FactoryMethod.fields : List (FieldCodec FactoryMethod) := [
  .required "path" .text (·.path),
  .defaulted "parameters" FactoryParameter.codec.list [] (by simp) (·.parameters)]

theorem FactoryMethod.codec :
    Codec FactoryMethod.toJson FactoryMethod.ofJson FactoryMethod.edits
      FactoryMethod.InRange := by
  refine Codec.record "struct FactoryMethod" fields (by decide) ?written ?reads ?range
  case written => exact fun _ => rfl
  case reads =>
    rintro given ⟨⟩
    simp [FactoryMethod.ofJson, fields, Outcome.bind_eq_ok_iff, Outcome.pure_eq_ok_iff,
      -bind_pure_comp]
  case range => simp [FactoryMethod.InRange, fields]

theorem FactoryMethod.ofJson_null (factory : FactoryMethod) :
    FactoryMethod.ofJson .null ≠ .ok factory :=
  nofun

def RegistrationModel.fields : List (FieldCodec RegistrationModel) := [
  .defaulted "service" (TypeName.codec.optional TypeName.ofJson_null) none nofun (·.service),
  .required "lifetime" Lifetime.codec (·.lifetime),
  .defaulted "registration_type" (Verb.codec.optional nofun) none nofun (·.verb),
  .defaulted "realm" (TypeName.codec.optional TypeName.ofJson_null) none nofun (·.realm),
  .defaulted "key" (Codec.text.optional nofun) none nofun (·.key),
  .defaulted "cross_wire" .boolean false trivial (·.crossWire),
  .defaulted "line" .natural 0 (by decide) (·.line)]

theorem RegistrationModel.codec :
    Codec RegistrationModel.toJson RegistrationModel.ofJson RegistrationModel.edits
      RegistrationModel.InRange := by
  refine Codec.record "struct RegistrationModel" fields (by decide) ?written ?reads ?range
  case written => exact fun _ => rfl
  case reads =>
    rintro given ⟨⟩
    simp [RegistrationModel.ofJson, fields, Outcome.bind_eq_ok_iff, Outcome.pure_eq_ok_iff,
      -bind_pure_comp, -Bool.exists_bool]
  case range => simp [RegistrationModel.InRange, fields]

def ServiceDescriptor.fields : List (FieldCodec ServiceDescriptor) := [
  .required "implementation" TypeName.codec (·.implementation),
  .defaulted "source_file" .path "" trivial (·.sourceFile),
  .defaulted "interfaces" TypeName.codec.list [] (by simp) (·.interfaces),
  .defaulted "registrations" RegistrationModel.codec.list [] (by simp) (·.registrations),
  .defaulted "factory" (FactoryMethod.codec.optional FactoryMethod.ofJson_null) none nofun
    (·.factory)]

theorem ServiceDescriptor.codec :
    Codec ServiceDescriptor.toJson ServiceDescriptor.ofJson ServiceDescriptor.edits
      ServiceDescriptor.InRange := by
  refine Codec.record "struct ServiceDescriptor" fields (by decide) ?written ?reads ?range
  case written => exact fun _ => rfl
  case reads =>
    rintro given ⟨⟩
    simp [ServiceDescriptor.ofJson, fields, Outcome.bind_eq_ok_iff, Outcome.pure_eq_ok_iff,
      -bind_pure_comp]
  case range => simp [ServiceDescriptor.InRange, fields]

/-! ## Modules -/

def Parameter.fields : List (FieldCodec Parameter) := [
  .required "name" .text (·.name), .required "ty" .text (·.type)]

theorem Parameter.codec :
    Codec Parameter.toJson Parameter.ofJson Parameter.edits fun _ => True := by
  refine Codec.record "struct Parameter" fields (by decide) ?written ?reads ?range
  case written => exact fun _ => rfl
  case reads =>
    rintro given ⟨⟩
    simp [Parameter.ofJson, fields, Outcome.bind_eq_ok_iff, Outcome.pure_eq_ok_iff,
      -bind_pure_comp]
  case range => simp [fields]

def PropertyOverride.fields : List (FieldCodec PropertyOverride) := [
  .required "name" .text (·.name), .required "value" .text (·.value)]

theorem PropertyOverride.codec :
    Codec PropertyOverride.toJson PropertyOverride.ofJson PropertyOverride.edits
      fun _ => True := by
  refine Codec.record "struct PropertyOverride" fields (by decide) ?written ?reads ?range
  case written => exact fun _ => rfl
  case reads =>
    rintro given ⟨⟩
    simp [PropertyOverride.ofJson, fields, Outcome.bind_eq_ok_iff, Outcome.pure_eq_ok_iff,
      -bind_pure_comp]
  case range => simp [fields]

def ModuleReference.fields : List (FieldCodec ModuleReference) := [
  .required "module" TypeName.codec (·.module),
  .defaulted "arguments" Codec.text.list [] (by simp) (·.arguments),
  .defaulted "properties" PropertyOverride.codec.list [] (by simp) (·.properties)]

theorem ModuleReference.codec :
    Codec ModuleReference.toJson ModuleReference.ofJson ModuleReference.edits
      ModuleReference.InRange := by
  refine Codec.record "struct ModuleReference" fields (by decide) ?written ?reads ?range
  case written => exact fun _ => rfl
  case reads =>
    rintro given ⟨⟩
    simp [ModuleReference.ofJson, fields, Outcome.bind_eq_ok_iff, Outcome.pure_eq_ok_iff,
      -bind_pure_comp]
  case range => simp [ModuleReference.InRange, fields]

def ModuleDescriptor.fields : List (FieldCodec ModuleDescriptor) := [
  .required "ty" TypeName.codec (·.type), .required "source_file" .path (·.sourceFile),
  .defaulted "line" .natural 0 (by decide) (·.line),
  .defaulted "auto_generated" .boolean false trivial (·.autoGenerated),
  .defaulted "only_realm" .boolean false trivial (·.onlyRealm),
  .defaulted "registration_type" (Verb.codec.optional nofun) none nofun (·.verb),
  .defaulted "generate_attribute" .boolean false trivial (·.generateAttribute),
  .defaulted "use_method" (Codec.text.optional nofun) none nofun (·.useMethod),
  .defaulted "auto_equality" .boolean false trivial (·.autoEquality),
  .defaulted "configure" .boolean false trivial (·.configure),
  .defaulted "features" TypeName.codec.list [] (by simp) (·.features),
  .defaulted "feature_order" .integer 0 (by decide) (·.featureOrder),
  .defaulted "handles" TypeName.codec.list [] (by simp) (·.handles),
  .defaulted "constructor" Parameter.codec.list [] (by simp) (·.constructor),
  .defaulted "properties" Parameter.codec.list [] (by simp) (·.properties),
  .defaulted "references" ModuleReference.codec.list [] (by simp) (·.references),
  .defaulted "additional_modules" TypeName.codec.list [] (by simp) (·.additionalModules)]

theorem ModuleDescriptor.codec :
    Codec ModuleDescriptor.toJson ModuleDescriptor.ofJson ModuleDescriptor.edits
      ModuleDescriptor.InRange := by
  refine Codec.record "struct ModuleDescriptor" fields (by decide) ?written ?reads ?range
  case written => exact fun _ => rfl
  case reads =>
    rintro given ⟨⟩
    simp [ModuleDescriptor.ofJson, fields, Outcome.bind_eq_ok_iff, Outcome.pure_eq_ok_iff,
      -bind_pure_comp, -Bool.exists_bool]
  case range => simp [ModuleDescriptor.InRange, fields]

/-! ## Settings -/

def Settings.fields : List (FieldCodec Settings) :=
  let base := Settings.default
  [.defaulted "default_registration" (Verb.codec.optional nofun) base.defaultVerb nofun
      (·.defaultVerb),
    .defaulted "auto_generate_module" .boolean base.autoGenerateModule trivial
      (·.autoGenerateModule),
    .defaulted "root_namespace" .text base.rootNamespace trivial (·.rootNamespace),
    .defaulted "project_dir" .path base.projectDir trivial (·.projectDir),
    .defaulted "source_dir" .path base.sourceDir trivial (·.sourceDir),
    .defaulted "program_entry" .path base.programEntry trivial (·.programEntry),
    .defaulted "output_dir" .path base.outputDir trivial (·.outputDir),
    .defaulted "generate_attribute" .boolean base.generateAttribute trivial
      (·.generateAttribute),
    .defaulted "log_folder" (Codec.path.optional nofun) base.logFolder nofun (·.logFolder),
    .defaulted "log_level" LogLevel.codec base.logLevel trivial (·.logLevel)]

theorem Settings.codec :
    Codec Settings.toJson Settings.ofJson Settings.edits fun _ => True := by
  refine Codec.record "struct ProjectConfig" fields (by decide) ?written ?reads ?range
  case written => exact fun _ => rfl
  case reads =>
    rintro given ⟨⟩
    simp [Settings.ofJson, fields, Outcome.bind_eq_ok_iff, Outcome.pure_eq_ok_iff,
      -bind_pure_comp, -Bool.exists_bool]
  case range => simp [fields]

/-! ## Round trips -/

/-- Values are read back from what is written of them, edited or not, and reading what is written of
a value that was read gives it again. -/
structure RoundTrips {α : Type} (encode : α → Json) (decode : Decoder α) (edits : Edits)
    (InRange : α → Prop) : Prop where
  reads_back : ∀ value, InRange value → decode (encode value) = .ok value
  unedited : ∀ value, InRange value → edits (encode value) (encode value)
  reads_edited : ∀ value changed, InRange value → edits (encode value) changed →
    decode changed = .ok value
  settles : ∀ given value, decode given = .ok value → decode (encode value) = .ok value

theorem Json.Codec.roundTrips {α : Type} {encode : α → Json} {decode : Decoder α} {edits : Edits}
    {InRange : α → Prop} (codec : Codec encode decode edits InRange) :
    RoundTrips encode decode edits InRange where
  reads_back _ fits := codec.read_encode fits
  unedited _ fits := codec.unedited fits
  reads_edited _ _ fits edited := codec.read fits edited
  settles _ _ read := codec.read_encode (codec.fits read)

/-- Descriptors and settings are read back from what is written of them. -/
theorem descriptors_round_trip :
    RoundTrips TypeName.toJson TypeName.ofJson TypeName.edits TypeName.InRange ∧
    RoundTrips FactoryParameter.toJson FactoryParameter.ofJson FactoryParameter.edits
      FactoryParameter.InRange ∧
    RoundTrips FactoryMethod.toJson FactoryMethod.ofJson FactoryMethod.edits
      FactoryMethod.InRange ∧
    RoundTrips RegistrationModel.toJson RegistrationModel.ofJson RegistrationModel.edits
      RegistrationModel.InRange ∧
    RoundTrips ServiceDescriptor.toJson ServiceDescriptor.ofJson ServiceDescriptor.edits
      ServiceDescriptor.InRange ∧
    RoundTrips ModuleReference.toJson ModuleReference.ofJson ModuleReference.edits
      ModuleReference.InRange ∧
    RoundTrips ModuleDescriptor.toJson ModuleDescriptor.ofJson ModuleDescriptor.edits
      ModuleDescriptor.InRange ∧
    RoundTrips Settings.toJson Settings.ofJson Settings.edits fun _ => True :=
  ⟨TypeName.codec.roundTrips, FactoryParameter.codec.roundTrips, FactoryMethod.codec.roundTrips,
    RegistrationModel.codec.roundTrips, ServiceDescriptor.codec.roundTrips,
    ModuleReference.codec.roundTrips, ModuleDescriptor.codec.roundTrips, Settings.codec.roundTrips⟩

def keyedClock : RegistrationModel :=
  ⟨some ⟨"crate", "Clock", 0⟩, .singleton, none, none, some "fast", false, 0⟩

def notedClock : Json :=
  .object [("note", .int 1), ("lifetime", .string "singleton"), ("key", .string "fast"),
    ("service", .object [("name", .string "Clock"), ("note", .int 2),
      ("namespace", .string "crate")])]

theorem descriptors_round_trip_noted :
    RegistrationModel.edits keyedClock.toJson notedClock ∧ keyedClock.InRange ∧
      RegistrationModel.ofJson notedClock = .ok keyedClock := by
  have edited : RegistrationModel.edits keyedClock.toJson notedClock := by
    refine Edits.record_object_iff.mpr ⟨_, rfl, ?_⟩
    simp only [List.forall_mem_cons]
    have service : TypeName.edits (TypeName.toJson ⟨"crate", "Clock", 0⟩) (.object
        [("name", .string "Clock"), ("note", .int 2), ("namespace", .string "crate")]) := by
      refine Edits.record_object_iff.mpr ⟨_, rfl, ?_⟩
      simp only [List.forall_mem_cons]
      exact ⟨.edited rfl rfl rfl, .edited rfl rfl rfl, .leftOut rfl rfl rfl, nofun⟩
    exact ⟨.edited rfl rfl service, .edited rfl rfl rfl, .leftOut rfl rfl rfl, .leftOut rfl rfl rfl,
      .edited rfl rfl rfl, .leftOut rfl rfl rfl, .leftOut rfl rfl rfl, nofun⟩
  have inRange : keyedClock.InRange := by
    simp [keyedClock, RegistrationModel.InRange, TypeName.InRange]
  obtain ⟨-, -, -, registrations, -⟩ := descriptors_round_trip
  exact ⟨edited, inRange, registrations.reads_edited keyedClock notedClock inRange edited⟩

end Wiring
