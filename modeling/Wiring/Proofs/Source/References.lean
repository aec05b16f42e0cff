import Wiring.Plan.DependencyGraph
import Wiring.Proofs.Source.Isolation
import Wiring.Proofs.Source.Places

/-!
# References and declarations

A declaration is named after the root namespace of the settings and a reference after the crate, so
the two meet exactly if the crate is the root namespace. See `references_meet`.
-/

set_option autoImplicit false

namespace Wiring.Source

open Wiring.Files
open Wiring.Grammar
open Wiring.Text

/-! ## Paths and the types that they name -/

theorem eq_of_splitLastChars? {cs front last : List Char}
    (split : splitLastChars? cs = some (front, last)) : cs = front ++ ':' :: ':' :: last := by
  induction cs generalizing front last with
  | nil => cases split
  | cons c rest ih =>
      unfold splitLastChars? at split
      cases later : splitLastChars? rest with
      | some parts =>
          obtain ⟨more, tail⟩ := parts
          simp only [later, Option.some.injEq, Prod.mk.injEq] at split
          obtain ⟨rfl, rfl⟩ := split
          rw [List.cons_append, ← ih later]
      | none =>
          simp only [later] at split
          split at split
          · cases split
            rfl
          · cases split

theorem splitLastChars?_of_plain {name : List Char} (plain : ':' ∉ name) :
    splitLastChars? name = none := by
  cases split : splitLastChars? name with
  | none => rfl
  | some parts =>
      exact absurd (by rw [eq_of_splitLastChars? split]; simp) plain

theorem splitLastChars?_append (front : List Char) {name : List Char} (plain : ':' ∉ name) :
    splitLastChars? (front ++ ':' :: ':' :: name) = some (front, name) := by
  induction front with
  | nil =>
      have later : splitLastChars? (':' :: name) = none := by
        unfold splitLastChars?
        rw [splitLastChars?_of_plain plain]
        cases name with
        | nil => rfl
        | cons c rest =>
            have other : c ≠ ':' := fun same => plain (same ▸ List.mem_cons_self)
            simp [other]
      unfold splitLastChars?
      simp only [List.nil_append, later]
  | cons c rest ih =>
      unfold splitLastChars?
      simp only [List.cons_append, ih]

theorem fullName_ofPath {path : String} (begins : ¬"::".toList <+: path.toList) :
    (TypeName.ofPath path).fullName = path := by
  unfold TypeName.ofPath splitLast?
  cases split : splitLastChars? path.toList with
  | none => simp [TypeName.fullName, TypeName.of]
  | some parts =>
      obtain ⟨front, last⟩ := parts
      have whole := eq_of_splitLastChars? split
      have space : String.ofList front ≠ "" := by
        intro empty
        obtain rfl : front = [] := by simpa using empty
        exact begins ⟨last, whole.symm⟩
      have pieces : path = String.ofList front ++ "::" ++ String.ofList last := by
        rw [← String.toList_inj, whole]
        simp
      simp [TypeName.fullName, TypeName.of, space, ← pieces]

theorem resolvePath_crate (spaces : List String) (scope : Scope) (rest : List String) :
    resolvePath spaces scope ("crate" :: rest) = joinSegments ("crate" :: rest) :=
  rfl

theorem crate_begins (rest : List String) :
    ¬"::".toList <+: (joinSegments ("crate" :: rest)).toList := by
  cases rest with
  | nil => decide
  | cons second rest =>
      rw [joinSegments_cons]
      simp

theorem fullName_resolve_crate (index : Index) (scope : Scope) {path : SyntaxTree}
    {rest : List String} (written : path.pathNames = "crate" :: rest) :
    (index.resolve scope path).fullName = joinSegments ("crate" :: rest) := by
  rw [Index.resolve, resolveType, written, resolvePath_crate, fullName_ofPath (crate_begins rest)]

theorem joinSegments_root_inj {left right : String} (rest : List String) :
    joinSegments (left :: rest) = joinSegments (right :: rest) ↔ left = right := by
  cases rest with
  | nil => simp [joinSegments]
  | cons second rest =>
      rw [joinSegments_cons, joinSegments_cons, String.append_left_inj, String.append_left_inj]

/-- The full name of a type below a root is that of the crate's path exactly if the crate is the
root. -/
theorem crate_eq_fullName_iff {root : String} {inside : List String} {type : TypeName}
    (space : type.space = joinSegments (root :: inside)) :
    joinSegments ("crate" :: (inside ++ [type.name])) = type.fullName ↔
      root = "crate" := by
  have written : joinSegments ("crate" :: (inside ++ [type.name])) =
      joinSegments ("crate" :: inside) ++ "::" ++ type.name := joinSegments_concat ..
  rw [written, TypeName.fullName]
  by_cases empty : type.space = ""
  · -- A type in no namespace has a shorter name than any path from the crate.
    have longer : joinSegments ("crate" :: inside) ++ "::" ++ type.name ≠ type.name := by
      intro same
      have lengths := congrArg String.length same
      simp [String.length_append] at lengths
    have other : root ≠ "crate" := by
      rintro rfl
      rw [space] at empty
      have begins := congrArg String.length empty
      cases inside with
      | nil => simp [joinSegments] at begins
      | cons second rest => simp [joinSegments_cons, String.length_append] at begins
    simp [empty, longer, other]
  · have nonempty : type.space.isEmpty = false := by simpa using empty
    rw [nonempty, if_neg Bool.false_ne_true, space, String.append_left_inj, String.append_left_inj,
      joinSegments_root_inj, eq_comm]

/-! ## Declared types -/

/-- The names that lead from the crate to a source file, from its components below the source
directory: its directories, and its own name unless it stands for its directory. -/
def fileSegments (relative : List String) : List String :=
  let parts := dropExtension relative
  match parts.getLast? with
  | some last => if directoryFiles.contains last then parts.dropLast else parts
  | none => parts

theorem namespaceOf_eq (root : String) (relative : List String) :
    namespaceOf root relative = joinSegments (root :: fileSegments relative) := by
  unfold namespaceOf fileSegments
  cases dropExtension relative with
  | nil => rfl
  | cons first rest => rfl

section Relations

variable (settings : Settings) (sources : List SourceText)

def tables : Index :=
  .ofFiles (parsedFacts settings sources)

/-- The names that lead from the crate to a declaration in a file. -/
def locationOf (path : String) (declaration : Declaration) : List String :=
  fileSegments (relativeTo path settings.sourcePath settings.sourceDir) ++ declaration.inline ++
    [declaration.item.itemName]

/-- A declaration in a source text, and the item that the file declares for it. -/
structure Declared (source : SourceText) (file : FileFacts) (item : DeclaredItem)
    (declaration : Declaration) : Prop where
  member : source ∈ sources
  facts : factsOf settings source = .ok file
  declared : ∃ tree, parseFile source.text = .ok tree ∧
    (item, declaration) ∈ file.items.zip (declarations [] tree)

/-- The types of modules and services that source texts declare, by the names that lead to them from
the crate. -/
inductive DeclaresType : List String → TypeName → Prop where
  | module {source : SourceText} {file : FileFacts} {item : DeclaredItem}
      {declaration : Declaration} {found : FoundAttribute} {module : ModuleDescriptor}
      (declared : Declared settings sources source file item declaration)
      (given : found ∈ item.attributes) (kind : found.kind = .module)
      (made : moduleOf (tables settings sources) settings file item found = .ok module) :
      DeclaresType (locationOf settings source.path declaration) module.type
  | service {source : SourceText} {file : FileFacts} {item : DeclaredItem}
      {declaration : Declaration} {service : ServiceDescriptor}
      (declared : Declared settings sources source file item declaration)
      (made : serviceOf (tables settings sources) file item = .ok (some service)) :
      DeclaresType (locationOf settings source.path declaration) service.implementation

/-! ## References -/

/-- A module attribute in some source texts, its arguments and its descriptor. -/
structure ModuleAttribute (given : ModuleArguments) (module : ModuleDescriptor) : Prop where
  made : ∃ file ∈ parsedFacts settings sources, ∃ item ∈ file.items, ∃ found ∈ item.attributes,
    found.kind = .module ∧ moduleArguments found.tree = .ok given ∧
      moduleOf (tables settings sources) settings file item found = .ok module

/-- A service attribute in some source texts, its arguments, its registration and the path of its
factory. -/
structure ServiceAttribute (given : ServiceArguments) (registration : RegistrationModel)
    (factory : Option String) : Prop where
  made : ∃ file ∈ parsedFacts settings sources, ∃ item ∈ file.items, ∃ found ∈ item.attributes,
    ∃ lifetime, found.kind = .service lifetime ∧ serviceArguments found.tree = .ok given ∧
      registrationOf (tables settings sources) file item lifetime found =
        .ok (registration, factory)

/-- The names that a reference to a type is written with, and the type that is recorded for it. -/
inductive Refers : List String → TypeName → Prop where
  | feature {given : ModuleArguments} {module : ModuleDescriptor} {path : SyntaxTree}
      {type : TypeName} (made : ModuleAttribute settings sources given module)
      (recorded : (path, type) ∈ given.features.zip module.features) : Refers path.pathNames type
  | handle {given : ModuleArguments} {module : ModuleDescriptor} {path : SyntaxTree}
      {type : TypeName} (made : ModuleAttribute settings sources given module)
      (recorded : (path, type) ∈ given.handles.zip module.handles) : Refers path.pathNames type
  | dependency {given : ModuleArguments} {module : ModuleDescriptor} {raw : RawReference}
      {reference : ModuleReference} (made : ModuleAttribute settings sources given module)
      (recorded : (raw, reference) ∈ given.dependsOn.zip module.references) :
      Refers raw.path.pathNames reference.module
  | service {given : ServiceArguments} {registration : RegistrationModel} {factory : Option String}
      {path : SyntaxTree} {type : TypeName}
      (made : ServiceAttribute settings sources given registration factory)
      (written : given.service = some path) (recorded : registration.service = some type) :
      Refers path.pathNames type
  | realm {given : ServiceArguments} {registration : RegistrationModel} {factory : Option String}
      {path : SyntaxTree} {type : TypeName}
      (made : ServiceAttribute settings sources given registration factory)
      (written : given.realm = some path) (recorded : registration.realm = some type) :
      Refers path.pathNames type
  | call {file : FileFacts} {call : ModuleCall} {type : TypeName}
      (member : file ∈ parsedFacts settings sources) (called : call ∈ file.moduleCalls)
      (recorded : type = (tables settings sources).resolve (file.scope call.scope) call.module) :
      Refers call.module.pathNames type

/-- The names that a factory is written with, and the path that is recorded for it. -/
structure RefersToFactory (written : List String) (recorded : String) : Prop where
  made : ∃ given registration path,
    ServiceAttribute settings sources given registration (some recorded) ∧
      given.factory = some path ∧ path.pathNames = written

end Relations

section Meeting

variable {settings : Settings} {sources : List SourceText} {location : List String}
  {type : TypeName}

theorem eq_of_mem_zip_map {α β : Type} {f : α → β} {items : List α} {item : α} {image : β}
    (member : (item, image) ∈ items.zip (items.map f)) : image = f item := by
  induction items with
  | nil => cases member
  | cons first rest ih =>
      rw [List.map_cons, List.zip_cons_cons, List.mem_cons] at member
      rcases member with here | later
      · cases here
        rfl
      · exact ih later

theorem ModuleAttribute.records {given : ModuleArguments} {module : ModuleDescriptor}
    (declares : ModuleAttribute settings sources given module) :
    ∃ file item found,
      RecordsModule (tables settings sources) file item found given module := by
  obtain ⟨file, -, item, -, found, -, -, read, made⟩ := declares.made
  obtain ⟨given', read', records⟩ := recordsModule_of_moduleOf made
  obtain rfl := Except.ok.inj (read.symm.trans read')
  exact ⟨file, item, found, records⟩

theorem ServiceAttribute.records {given : ServiceArguments} {registration : RegistrationModel}
    {factory : Option String}
    (declares : ServiceAttribute settings sources given registration factory) :
    ∃ file item lifetime found, RecordsService (tables settings sources) file item lifetime found
      given registration factory := by
  obtain ⟨file, -, item, -, found, -, lifetime, -, read, made⟩ := declares.made
  obtain ⟨given', read', records⟩ := recordsService_of_registrationOf made
  obtain rfl := Except.ok.inj (read.symm.trans read')
  exact ⟨file, item, lifetime, found, records⟩

/-- Whatever a reference stands in, the type recorded for it is the one that its path resolves to
in some scope. -/
theorem Refers.resolves {written : List String} {recorded : TypeName}
    (refers : Refers settings sources written recorded) :
    ∃ scope path, path.pathNames = written ∧
      recorded.fullName = ((tables settings sources).resolve scope path).fullName := by
  cases refers with
  | feature made member =>
      obtain ⟨file, item, found, records⟩ := made.records
      rw [records.features] at member
      exact ⟨_, _, rfl, by rw [eq_of_mem_zip_map member]⟩
  | handle made member =>
      obtain ⟨file, item, found, records⟩ := made.records
      rw [records.handles] at member
      exact ⟨_, _, rfl, by rw [eq_of_mem_zip_map member]⟩
  | dependency made member =>
      obtain ⟨file, item, found, records⟩ := made.records
      rw [records.references] at member
      exact ⟨file.scope item.scope, _, rfl, by rw [eq_of_mem_zip_map member]; rfl⟩
  | service made asked answered =>
      obtain ⟨file, item, lifetime, found, records⟩ := made.records
      have same := records.service
      rw [asked, answered, Option.map_some, Option.map_some, Option.some.injEq] at same
      exact ⟨_, _, rfl, same⟩
  | realm made asked answered =>
      obtain ⟨file, item, lifetime, found, records⟩ := made.records
      have same := records.realm
      rw [asked, answered, Option.map_some, Option.some.injEq] at same
      exact ⟨_, _, rfl, by rw [same]⟩
  | call member called answered => exact ⟨_, _, rfl, by rw [answered]⟩

theorem RefersToFactory.resolves {written : List String} {recorded : String}
    (refers : RefersToFactory settings sources written recorded) :
    ∃ scope path, path.pathNames = written ∧
      recorded = ((tables settings sources).resolve scope path).fullName := by
  obtain ⟨given, registration, path, made, asked, rfl⟩ := refers.made
  obtain ⟨file, item, lifetime, found, records⟩ := made.records
  have same := records.factory
  rw [asked, Option.map_some, Option.some.injEq] at same
  exact ⟨_, _, rfl, same⟩

theorem Declared.stands {source : SourceText} {file : FileFacts} {item : DeclaredItem}
    {declaration : Declaration}
    (declared : Declared settings sources source file item declaration) :
    file.Stands (settings.rootNamespace ::
      fileSegments (relativeTo source.path settings.sourcePath settings.sourceDir))
      item declaration := by
  obtain ⟨tree, parsed, paired⟩ := declared.declared
  have facts := declared.facts
  simp only [factsOf, parsed, Except.ok.injEq] at facts
  subst facts
  rw [namespaceOf_eq] at paired ⊢
  exact (List.forall₂_iff_zip.mp (FileFacts.collect_stands (by simp) source.path tree)).2 paired

theorem Declared.place {source : SourceText} {file : FileFacts} {item : DeclaredItem}
    {declaration : Declaration}
    (declared : Declared settings sources source file item declaration) :
    ∃ inside, locationOf settings source.path declaration = inside ++ [item.name] ∧
      (item.type file).space = joinSegments (settings.rootNamespace :: inside) := by
  have stands := declared.stands
  refine ⟨fileSegments (relativeTo source.path settings.sourcePath settings.sourceDir) ++
    declaration.inline, ?_, FileFacts.space_of_spaces stands.space⟩
  rw [locationOf, stands.name]

theorem DeclaresType.place (declares : DeclaresType settings sources location type) :
    ∃ inside, location = inside ++ [type.name] ∧
      type.space = joinSegments (settings.rootNamespace :: inside) := by
  cases declares with
  | module declared given kind made =>
      obtain ⟨_, -, records⟩ := recordsModule_of_moduleOf made
      rw [records.type]
      exact declared.place
  | service declared made =>
      obtain ⟨gathered, -, -, -, type⟩ := gatherAll_of_serviceOf _ _ _ made
      rw [type]
      exact declared.place

/-! ## Where references meet declarations -/

/-- How references to a type by its path from the crate meet its declaration. -/
structure Meets (settings : Settings) (sources : List SourceText) (location : List String)
    (type : TypeName) : Prop where
  /-- The type recorded for a reference has the full name of the declaration exactly if the crate
  is the root namespace. -/
  named : ∀ recorded, Refers settings sources ("crate" :: location) recorded →
    (recorded.fullName = type.fullName ↔ settings.rootNamespace = "crate")
  /-- So has the owner of a function that is named as a factory. -/
  owned : ∀ function recorded,
    RefersToFactory settings sources ("crate" :: (location ++ [function])) recorded →
      (recorded = type.fullName ++ "::" ++ function ↔ settings.rootNamespace = "crate")
  /-- A registration with a module as its realm applies to it exactly then. -/
  applies : type.arity = 0 → ':' ∉ type.name.toList → ∀ given registration factory path onlyRealm,
    ServiceAttribute settings sources given registration factory → given.realm = some path →
      path.pathNames = "crate" :: location →
        (registration.appliesTo type onlyRealm = true ↔ settings.rootNamespace = "crate")
  /-- Then no edge to the type leads out of a graph that has it. -/
  internal : settings.rootNamespace = "crate" → ∀ recorded,
    Refers settings sources ("crate" :: location) recorded → ∀ graph : Plan.DependencyGraph,
      (∃ module ∈ graph.modules, module.id = type.fullName) →
        ∀ source, (source, recorded.fullName) ∉ graph.externalReferences

/-- A path from the crate to a type names the type as it is declared if the crate is the root. -/
theorem resolve_crate (index : Index) (scope : Scope) {path : SyntaxTree} {inside : List String}
    {name : String} (plain : ':' ∉ name.toList)
    (written : path.pathNames = "crate" :: (inside ++ [name])) :
    index.resolve scope path = .of (joinSegments ("crate" :: inside)) name := by
  have joined : joinSegments ("crate" :: (inside ++ [name])) =
      joinSegments ("crate" :: inside) ++ "::" ++ name := joinSegments_concat ..
  have split : splitLast? (joinSegments ("crate" :: inside) ++ "::" ++ name) =
      some (joinSegments ("crate" :: inside), name) := by
    have chars : (joinSegments ("crate" :: inside) ++ "::" ++ name).toList =
        (joinSegments ("crate" :: inside)).toList ++ ':' :: ':' :: name.toList := by simp
    rw [splitLast?, chars, splitLastChars?_append _ plain]
    simp
  rw [Index.resolve, resolveType, written, resolvePath_crate, joined, TypeName.ofPath, split]

theorem not_external_of_mem {graph : Plan.DependencyGraph} {id : String}
    (known : ∃ module ∈ graph.modules, module.id = id) (source : ModuleDescriptor) :
    (source, id) ∉ graph.externalReferences := by
  obtain ⟨module, member, rfl⟩ := known
  have contained : graph.contains module.id = true := by
    rw [Plan.DependencyGraph.contains, Plan.DependencyGraph.get?, List.find?_isSome]
    exact ⟨module, List.mem_reverse.mpr member, beq_self_eq_true _⟩
  intro external
  simp only [Plan.DependencyGraph.externalReferences, List.mem_flatMap, List.mem_map,
    List.mem_filter, Prod.mk.injEq] at external
  obtain ⟨_, -, _, ⟨-, outside⟩, -, rfl⟩ := external
  rw [contained] at outside
  cases outside

theorem references_meet (declares : DeclaresType settings sources location type) :
    Meets settings sources location type := by
  obtain ⟨inside, rfl, space⟩ := declares.place
  have meets := crate_eq_fullName_iff space
  have named : ∀ recorded, Refers settings sources ("crate" :: (inside ++ [type.name])) recorded →
      (recorded.fullName = type.fullName ↔ settings.rootNamespace = "crate") := by
    intro recorded refers
    obtain ⟨scope, path, written, same⟩ := refers.resolves
    rw [same, fullName_resolve_crate _ scope written, meets]
  refine ⟨named, ?owned, ?applies, ?internal⟩
  case owned =>
    intro function recorded refers
    obtain ⟨scope, path, written, rfl⟩ := refers.resolves
    rw [fullName_resolve_crate _ scope written, joinSegments_concat,
      String.append_left_inj, String.append_left_inj, meets]
  case applies =>
    intro closed plain given registration factory path onlyRealm made asked written
    obtain ⟨file, item, lifetime, found, records⟩ := made.records
    have realm := records.realm
    rw [asked, Option.map_some, resolve_crate _ _ plain written] at realm
    rw [RegistrationModel.appliesTo, realm, beq_iff_eq]
    constructor
    · intro same
      rw [← same, TypeName.of] at space
      exact ((joinSegments_root_inj inside).mp space).symm
    · intro root
      rw [TypeName.of, ← root, ← space, ← closed]
  case internal =>
    intro root recorded refers graph known source
    rw [(named recorded refers).mpr root]
    exact not_external_of_mem known source

end Meeting

/-! ## Two modules, one of which depends on the other -/

def httpText : SourceText :=
  ⟨"src/http.rs", "#[module] pub struct HttpModule;"⟩

def appText : SourceText :=
  ⟨"src/lib.rs", "#[module(depends_on(crate::http::HttpModule))] pub struct AppModule;"⟩

def beginsWithModule (name : String) (file : FileFacts) (tree : SyntaxTree) : Bool :=
  match file.items.zip (declarations [] tree) with
  | (item, declaration) :: _ =>
      match item.attributes with
      | found :: _ => found.kind == .module && declaration.inline.isEmpty &&
          declaration.item.itemName == name && item.typeParameters == 0 &&
          (moduleArguments found.tree).isOk
      | [] => false
  | [] => false

theorem declaresType_of_beginsWithModule {settings : Settings} {sources : List SourceText}
    {source : SourceText} {file : FileFacts} {tree : SyntaxTree} {name : String}
    (member : source ∈ sources) (parsed : parseFile source.text = .ok tree)
    (facts : factsOf settings source = .ok file) (begins : beginsWithModule name file tree) :
    ∃ type, DeclaresType settings sources
      (fileSegments (relativeTo source.path settings.sourcePath settings.sourceDir) ++ [name])
      type := by
  unfold beginsWithModule at begins
  split at begins
  · rename_i item declaration rest items
    split at begins
    · rename_i found more attributes
      simp only [Bool.and_eq_true, beq_iff_eq, List.isEmpty_iff] at begins
      obtain ⟨⟨⟨⟨kind, inline⟩, rfl⟩, plain⟩, readable⟩ := begins
      have paired : (item, declaration) ∈ file.items.zip (declarations [] tree) := by
        rw [items]
        exact List.mem_cons_self
      obtain ⟨given, read⟩ : ∃ given, moduleArguments found.tree = .ok given := by
        cases read : moduleArguments found.tree with
        | ok given => exact ⟨given, rfl⟩
        | error error =>
            rw [read] at readable
            cases readable
      obtain ⟨module, made⟩ :
          ∃ module, moduleOf (tables settings sources) settings file item found = .ok module :=
        exists_moduleOf_iff.mpr ⟨plain, given, read⟩
      have declared : Declared settings sources source file item declaration :=
        ⟨member, facts, tree, parsed, paired⟩
      have place := DeclaresType.module declared (by rw [attributes]; exact List.mem_cons_self)
        kind made
      rw [locationOf, inline, List.append_nil] at place
      exact ⟨module.type, place⟩
    · cases begins
  · cases begins

theorem references_meet_http :
    ∃ type, DeclaresType .default [httpText, appText] ["http", "HttpModule"] type ∧
      Meets .default [httpText, appText] ["http", "HttpModule"] type := by
  have declares : ∃ type,
      DeclaresType .default [httpText, appText] ["http", "HttpModule"] type := by
    cases facts : factsOf .default httpText with
    | error problem =>
        have fine : (factsOf .default httpText).isOk = true := by decide +kernel
        rw [facts] at fine
        cases fine
    | ok file =>
        cases parsed : parseFile httpText.text with
        | error error =>
            have fine : (parseFile httpText.text).isOk = true := by decide +kernel
            rw [parsed] at fine
            cases fine
        | ok tree =>
            have begins : (match factsOf .default httpText, parseFile httpText.text with
                | .ok file, .ok tree => beginsWithModule "HttpModule" file tree
                | _, _ => false) = true := by decide +kernel
            rw [facts, parsed] at begins
            have segments : fileSegments (relativeTo httpText.path Settings.default.sourcePath
                Settings.default.sourceDir) ++ ["HttpModule"] = ["http", "HttpModule"] := by
              decide +kernel
            rw [← segments]
            exact declaresType_of_beginsWithModule (by simp) parsed facts begins
  obtain ⟨type, declares⟩ := declares
  exact ⟨type, declares, references_meet declares⟩

/-- With another root namespace the reference is not to the module. -/
theorem http_external :
    (discover { Settings.default with rootNamespace := "app" } [httpText, appText]).modules.map
        (fun (module, _) => (module.id, module.dependencyIds)) =
      [("app::http::HttpModule", []), ("app::AppModule", ["crate::http::HttpModule"])] := by
  decide +kernel

end Wiring.Source
