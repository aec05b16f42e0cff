import Wiring.Proofs.Source.Declarations
import Wiring.Source.Discovery

/-!
# Declarations are analysed apart from one another

What one declaration gives does not depend on what others say, and a text that does not parse only
adds its own diagnostic.  See `discovery_isolates`.
-/

set_option autoImplicit false

namespace Wiring.Source

open Wiring.Grammar

/-! ## Tables know nothing of declarations -/

def FileFacts.withoutItems (file : FileFacts) : FileFacts :=
  { file with items := [] }

namespace Index

def withoutItems (index : Index) : Index :=
  { index with
    functions := index.functions.map fun (path, file, found) => (path, file.withoutItems, found) }

theorem withoutItems_ofFiles (files : List FileFacts) :
    (ofFiles files).withoutItems = ofFiles (files.map FileFacts.withoutItems) := by
  have spaces : (files.map FileFacts.withoutItems).flatMap spacesOf = files.flatMap spacesOf :=
    List.flatMap_map ..
  simp only [withoutItems, ofFiles, spaces, List.flatMap_map, List.map_flatMap, List.map_map]
  rfl

theorem function?_withoutItems (index : Index) (path : String) :
    index.withoutItems.function? path =
      (index.function? path).map fun (file, found) => (file.withoutItems, found) := by
  simp only [function?, withoutItems, List.find?_map, Option.map_map]
  rfl

end Index

section Tables

variable (index : Index) (file : FileFacts)

theorem constructorOf_withoutItems (id : String) :
    constructorOf index.withoutItems id = constructorOf index id := by
  simp only [constructorOf, Index.function?_withoutItems]
  cases index.function? (id ++ "::new") <;> rfl

theorem factoryParameter_withoutItems (scope : Scope) (name : String) (type : SyntaxTree) :
    factoryParameter index.withoutItems scope name type = factoryParameter index scope name type :=
  rfl

theorem factoryParameters_withoutItems (scope : Scope) (inputs : List (String × SyntaxTree)) :
    factoryParameters index.withoutItems scope inputs = factoryParameters index scope inputs := by
  induction inputs with
  | nil => rfl
  | cons input rest ih => simp only [factoryParameters, ih, factoryParameter_withoutItems]

theorem factoryOf_withoutItems (service : TypeName) (path : String) (line : Nat) :
    factoryOf index.withoutItems file.withoutItems service path line =
      factoryOf index file service path line := by
  simp only [factoryOf, Index.function?_withoutItems]
  cases index.function? path with
  | none => rfl
  | some entry => simp only [Option.map_some, factoryParameters_withoutItems]; rfl

theorem moduleOf_withoutItems (settings : Settings) (item : DeclaredItem)
    (found : FoundAttribute) :
    moduleOf index.withoutItems settings file.withoutItems item found =
      moduleOf index settings file item found := by
  simp only [moduleOf, constructorOf_withoutItems]
  rfl

theorem gatherAll_withoutItems (item : DeclaredItem) (gathered : Gathered)
    (attributes : List FoundAttribute) :
    gatherAll index.withoutItems file.withoutItems item gathered attributes =
      gatherAll index file item gathered attributes := by
  induction attributes generalizing gathered with
  | nil => rfl
  | cons found rest ih =>
      have first : gather index.withoutItems file.withoutItems item gathered found =
          gather index file item gathered found := rfl
      simp only [gatherAll, first, ih]

theorem serviceOf_withoutItems (item : DeclaredItem) :
    serviceOf index.withoutItems file.withoutItems item = serviceOf index file item := by
  simp only [serviceOf, gatherAll_withoutItems, factoryOf_withoutItems]
  rfl

theorem moduleFindings_withoutItems (settings : Settings) (item : DeclaredItem)
    (found : FoundAttribute) :
    moduleFindings index.withoutItems settings file.withoutItems item found =
      moduleFindings index settings file item found := by
  simp only [moduleFindings, moduleOf_withoutItems]
  rfl

theorem serviceFindings_withoutItems (item : DeclaredItem) :
    serviceFindings index.withoutItems file.withoutItems item =
      serviceFindings index file item := by
  simp only [serviceFindings, serviceOf_withoutItems]
  rfl

/-- What a declaration gives can be computed from tables that no declaration went into. -/
theorem itemFindings_withoutItems (settings : Settings) (item : DeclaredItem) :
    itemFindings index.withoutItems settings file.withoutItems item =
      itemFindings index settings file item := by
  simp only [itemFindings, serviceFindings_withoutItems,
    funext (moduleFindings_withoutItems index file settings item)]

theorem programFindings_withoutItems (settings : Settings) :
    programFindings index.withoutItems settings file.withoutItems =
      programFindings index settings file :=
  rfl

end Tables

/-! ## Findings one after the other -/

namespace Findings

theorem append_assoc (first second third : Findings) :
    (first.append second).append third = first.append (second.append third) := by
  simp only [append, List.append_assoc]

theorem concat_append (front back : List Findings) :
    concat (front ++ back) = (concat front).append (concat back) := by
  induction front with
  | nil => rfl
  | cons first front ih => rw [List.cons_append, concat, concat, ih, append_assoc]

end Findings

/-! ## What the findings of several parts hold -/

theorem modules_concat {α : Type} (findings : α → Findings) (parts : List α) :
    (Findings.concat (parts.map findings)).modules =
      parts.flatMap fun part => (findings part).modules := by
  induction parts with
  | nil => rfl
  | cons part rest ih =>
      rw [List.map_cons, Findings.concat, List.flatMap_cons, ← ih]
      rfl

theorem services_concat {α : Type} (findings : α → Findings) (parts : List α) :
    (Findings.concat (parts.map findings)).services =
      parts.flatMap fun part => (findings part).services := by
  induction parts with
  | nil => rfl
  | cons part rest ih =>
      rw [List.map_cons, Findings.concat, List.flatMap_cons, ← ih]
      rfl

theorem services_itemFindings (index : Index) (settings : Settings) (file : FileFacts)
    (item : DeclaredItem) :
    (itemFindings index settings file item).services =
      (serviceFindings index file item).services := by
  have modules : ∀ found, (moduleFindings index settings file item found).services = [] := by
    intro found
    unfold moduleFindings
    split <;> rfl
  rw [itemFindings, Findings.append, services_concat,
    List.flatMap_eq_nil_iff.mpr fun found _ => modules found, List.nil_append]

theorem modules_itemFindings (index : Index) (settings : Settings) (file : FileFacts)
    (item : DeclaredItem) :
    (itemFindings index settings file item).modules =
      (item.attributes.filter (·.kind == .module)).flatMap fun found =>
        (moduleFindings index settings file item found).modules := by
  have service : (serviceFindings index file item).modules = [] := by
    unfold serviceFindings
    split <;> rfl
  rw [itemFindings, Findings.append, service, List.append_nil, modules_concat]

/-! ## Each file and each declaration by itself -/

def misplacedFindings (file : FileFacts) : Findings :=
  ⟨[], [], file.misplaced.map (misplacedDiagnostic file.path)⟩

/-- What a file gives when each of its declarations is looked at by itself, with tables and facts
that hold no declaration. -/
def apartFindings (tables : Index) (settings : Settings) (file : FileFacts) : Findings :=
  ((misplacedFindings file.withoutItems).append
    (.concat (file.items.map (itemFindings tables settings file.withoutItems)))).append
    (programFindings tables settings file.withoutItems)

theorem fileFindings_eq_apart (index : Index) (settings : Settings) (file : FileFacts) :
    fileFindings index settings file = apartFindings index.withoutItems settings file := by
  simp only [fileFindings, apartFindings, programFindings_withoutItems,
    funext (itemFindings_withoutItems index file settings)]
  rfl

/-- Analysis looks at each declaration of each file by itself, in their order. -/
theorem analyze_eq_apart (settings : Settings) (files : List FileFacts) :
    analyze settings files = .concat (files.map
      (apartFindings (Index.ofFiles (files.map FileFacts.withoutItems)) settings)) := by
  simp only [analyze, ← Index.withoutItems_ofFiles, funext (fileFindings_eq_apart _ settings)]

def redeclared (file : FileFacts) (before : List DeclaredItem) (item : DeclaredItem)
    (after : List DeclaredItem) (attributes : List FoundAttribute) : FileFacts :=
  { file with items := before ++ { item with attributes } :: after }

theorem apartFindings_redeclared (tables : Index) (settings : Settings) (file : FileFacts)
    (before after : List DeclaredItem) (item : DeclaredItem) (attributes : List FoundAttribute) :
    let items := itemFindings tables settings file.withoutItems
    apartFindings tables settings (redeclared file before item after attributes) =
      ((misplacedFindings file.withoutItems).append (.concat (before.map items))).append
        ((items { item with attributes }).append ((Findings.concat (after.map items)).append
          (programFindings tables settings file.withoutItems))) := by
  intro items
  have apart : apartFindings tables settings (redeclared file before item after attributes) =
      ((misplacedFindings file.withoutItems).append (.concat
        ((before ++ { item with attributes } :: after).map items))).append
        (programFindings tables settings file.withoutItems) := rfl
  rw [apart, List.map_append, List.map_cons, Findings.concat_append, Findings.concat]
  simp only [Findings.append_assoc]

theorem analyze_redeclared (settings : Settings) (front back : List FileFacts) (file : FileFacts)
    (before after : List DeclaredItem) (item : DeclaredItem) :
    ∃ left right : Findings, ∀ attributes,
      analyze settings (front ++ redeclared file before item after attributes :: back) =
        (left.append (itemFindings
          (Index.ofFiles ((front ++ file :: back).map FileFacts.withoutItems)) settings
          file.withoutItems { item with attributes })).append right := by
  generalize spared : Index.ofFiles ((front ++ file :: back).map FileFacts.withoutItems) = tables
  refine ⟨((Findings.concat (front.map (apartFindings tables settings))).append
      (misplacedFindings file.withoutItems)).append
      (.concat (before.map (itemFindings tables settings file.withoutItems))),
    ((Findings.concat (after.map (itemFindings tables settings file.withoutItems))).append
      (programFindings tables settings file.withoutItems)).append
      (.concat (back.map (apartFindings tables settings))), ?_⟩
  intro attributes
  have known : (front ++ redeclared file before item after attributes :: back).map
      FileFacts.withoutItems = (front ++ file :: back).map FileFacts.withoutItems := by
    simp only [List.map_append, List.map_cons]
    rfl
  rw [analyze_eq_apart, known, spared, List.map_append, List.map_cons, Findings.concat_append,
    Findings.concat, apartFindings_redeclared]
  simp only [Findings.append_assoc]

/-! ## One descriptor or one error -/

/-- What a module attribute on an item gives: one descriptor of the item, or one error. -/
inductive GivesModule (file : FileFacts) (item : DeclaredItem) (found : FoundAttribute) :
    Findings → Prop where
  | described (module : ModuleDescriptor) (type : module.type = item.type file)
      (line : module.line = found.line) : GivesModule file item found ⟨[module], [], []⟩
  | refused (problem : Diagnostic) (error : problem.severity = .error) :
      GivesModule file item found ⟨[], [], [problem]⟩

/-- The service that an attribute declares: its lifetime and its line. -/
def declaredLifetime? (found : FoundAttribute) : Option (Lifetime × Nat) :=
  match found.kind with
  | .service lifetime => some (lifetime, found.line)
  | _ => none

/-- What the service attributes of an item give together: one descriptor of the item with a
registration for each of them, or one error. -/
inductive GivesService (file : FileFacts) (item : DeclaredItem) : Findings → Prop where
  | described (service : ServiceDescriptor)
      (type : service.implementation = { item.type file with arity := item.typeParameters })
      (registers : service.registrations.map (fun registration =>
        (registration.lifetime, registration.line)) =
          item.attributes.filterMap declaredLifetime?)
      (known : ∀ found ∈ item.attributes, ∀ name, found.kind ≠ .unknown name) :
      GivesService file item ⟨[], [service], []⟩
  | refused (problem : Diagnostic) (error : problem.severity = .error) :
      GivesService file item ⟨[], [], [problem]⟩

theorem severity_ofFailure (path : String) (failure : Failure) :
    (Diagnostic.ofFailure path failure).severity = .error := by
  cases failure <;> rfl

section Items

variable (index : Index) (settings : Settings) (file : FileFacts) (item : DeclaredItem)

theorem givesModule_moduleFindings (found : FoundAttribute) :
    GivesModule file item found (moduleFindings index settings file item found) := by
  unfold moduleFindings
  cases made : moduleOf index settings file item found with
  | error failure => exact .refused _ (severity_ofFailure file.path failure)
  | ok module =>
      obtain ⟨given, -, records⟩ := recordsModule_of_moduleOf made
      exact .described module records.type records.line

/-- A step over an attribute takes in the service that it declares, and stops at an unknown one. -/
theorem gather_declares {gathered after : Gathered} {found : FoundAttribute}
    (made : gather index file item gathered found = .ok after) :
    after.registrations.map (fun registration => (registration.lifetime, registration.line)) =
        gathered.registrations.map (fun registration =>
          (registration.lifetime, registration.line)) ++ (declaredLifetime? found).toList ∧
      ∀ name, found.kind ≠ .unknown name := by
  unfold gather at made
  unfold declaredLifetime?
  cases kind : found.kind with
  | module =>
      simp only [kind, Except.ok.injEq] at made
      subst made
      simp
  | unknown name =>
      simp only [kind] at made
      cases made
  | service lifetime =>
      simp only [kind, Outcome.bind_eq_ok_iff, Prod.exists] at made
      obtain ⟨registration, factory, declared, made⟩ := made
      obtain ⟨given, -, records⟩ := recordsService_of_registrationOf declared
      have taken : after.registrations = gathered.registrations ++ [registration] := by
        split at made
        · rw [Outcome.pure_eq_ok_iff] at made
          rw [← made]
        · split at made
          · rw [Outcome.pure_eq_ok_iff] at made
            rw [← made]
          · cases made
        · rw [Outcome.pure_eq_ok_iff] at made
          rw [← made]
      simp [taken, records.lifetime, records.line]

theorem gatherAll_declares {gathered after : Gathered} {attributes : List FoundAttribute}
    (made : gatherAll index file item gathered attributes = .ok after) :
    after.registrations.map (fun registration => (registration.lifetime, registration.line)) =
        gathered.registrations.map (fun registration =>
          (registration.lifetime, registration.line)) ++ attributes.filterMap declaredLifetime? ∧
      ∀ found ∈ attributes, ∀ name, found.kind ≠ .unknown name := by
  induction attributes generalizing gathered with
  | nil =>
      rw [gatherAll, Except.ok.injEq] at made
      simp [made]
  | cons found rest ih =>
      rw [gatherAll, Outcome.bind_eq_ok_iff] at made
      obtain ⟨between, first, later⟩ := made
      obtain ⟨taken, known⟩ := gather_declares index file item first
      obtain ⟨allTaken, allKnown⟩ := ih later
      refine ⟨?_, List.forall_mem_cons.mpr ⟨known, allKnown⟩⟩
      rw [allTaken, taken, List.append_assoc]
      congr 1
      cases declared : declaredLifetime? found <;> simp [declared]

/-- Without unknown attributes, no service is declared exactly if all attributes are of modules. -/
theorem filterMap_declaredLifetime?_eq_nil_iff {attributes : List FoundAttribute}
    (known : ∀ found ∈ attributes, ∀ name, found.kind ≠ .unknown name) :
    attributes.filterMap declaredLifetime? = [] ↔
      attributes.any (·.kind != .module) = false := by
  rw [List.filterMap_eq_nil_iff, List.any_eq_false]
  refine forall₂_congr fun found member => ?_
  have named := known found member
  unfold declaredLifetime?
  cases kind : found.kind with
  | module => simp
  | service lifetime => simp
  | unknown name => exact absurd kind (named name)

theorem gatherAll_of_modules {gathered : Gathered} {attributes : List FoundAttribute}
    (modules : attributes.any (·.kind != .module) = false) :
    gatherAll index file item gathered attributes = .ok gathered := by
  induction attributes with
  | nil => rfl
  | cons found rest ih =>
      rw [List.any_cons, Bool.or_eq_false_iff, bne_eq_false_iff_eq] at modules
      have first : gather index file item gathered found = .ok gathered := by
        rw [gather, modules.1]
      rw [gatherAll, first]
      exact ih modules.2

theorem gatherAll_of_serviceOf {service? : Option ServiceDescriptor}
    (made : serviceOf index file item = .ok service?) :
    ∃ gathered, gatherAll index file item ⟨[], none⟩ item.attributes = .ok gathered ∧
      match service? with
      | none => gathered.registrations = []
      | some service => gathered.registrations ≠ [] ∧
          service.registrations = gathered.registrations ∧
          service.implementation = { item.type file with arity := item.typeParameters } := by
  simp only [serviceOf, Outcome.bind_eq_ok_iff] at made
  obtain ⟨gathered, all, made⟩ := made
  refine ⟨gathered, all, ?_⟩
  cases nothing : gathered.registrations.isEmpty with
  | true =>
      rw [if_pos nothing, Outcome.pure_eq_ok_iff] at made
      subst made
      exact List.isEmpty_iff.mp nothing
  | false =>
      rw [if_neg (by simp [nothing])] at made
      have some := List.isEmpty_eq_false_iff.mp nothing
      split at made <;>
        simp only [Outcome.bind_eq_ok_iff, Outcome.pure_eq_ok_iff] at made
      · obtain ⟨-, -, rfl⟩ := made
        exact ⟨some, rfl, rfl⟩
      · obtain ⟨-, -, -, -, rfl⟩ := made
        exact ⟨some, rfl, rfl⟩

theorem givesService_serviceFindings
    (other : item.attributes.any (·.kind != .module) = true) :
    GivesService file item (serviceFindings index file item) := by
  unfold serviceFindings
  cases made : serviceOf index file item with
  | error failure => exact .refused _ (severity_ofFailure file.path failure)
  | ok service? =>
      obtain ⟨gathered, all, outcome⟩ := gatherAll_of_serviceOf index file item made
      obtain ⟨registers, known⟩ := gatherAll_declares index file item all
      simp only [List.map_nil, List.nil_append] at registers
      cases service? with
      | none =>
          rw [outcome, List.map_nil, eq_comm, filterMap_declaredLifetime?_eq_nil_iff known,
            other] at registers
          cases registers
      | some service =>
          obtain ⟨-, registrations, type⟩ := outcome
          exact .described service type (registrations ▸ registers) known

theorem serviceFindings_of_modules
    (modules : item.attributes.any (·.kind != .module) = false) :
    serviceFindings index file item = .none := by
  have all : gatherAll index file item ⟨[], none⟩ item.attributes = .ok ⟨[], none⟩ :=
    gatherAll_of_modules index file item modules
  have nothing : serviceOf index file item = .ok none := by
    rw [serviceOf, all]
    rfl
  rw [serviceFindings, nothing]

/-- What an item gives: something for each of its module attributes, and something for the others
together. -/
theorem itemFindings_gives :
    ∃ modules service, itemFindings index settings file item =
        (Findings.concat modules).append service ∧
      List.Forall₂ (GivesModule file item) (item.attributes.filter (·.kind == .module)) modules ∧
      if item.attributes.any (·.kind != .module) then GivesService file item service
      else service = .none := by
  refine ⟨_, _, rfl, ?_, ?_⟩
  · rw [List.forall₂_map_right_iff, List.forall₂_same]
    exact fun found _ => givesModule_moduleFindings index settings file item found
  · split
    · rename_i other
      exact givesService_serviceFindings index file item other
    · rename_i modules
      exact serviceFindings_of_modules index file item (Bool.eq_false_iff.mpr modules)

end Items

/-! ## Texts that do not parse -/

/-- The diagnostic of a text that does not parse. -/
def parseProblem (source : SourceText) (error : SyntaxError) : Diagnostic :=
  ⟨.error, source.path, error.line, (Failure.parse source.path error.message).message⟩

theorem factsOf_of_error (settings : Settings) {source : SourceText} {error : SyntaxError}
    (fails : parseFile source.text = .error error) :
    factsOf settings source = .error (parseProblem source error) := by
  simp only [factsOf, fails]
  rfl

/-- A text that does not parse adds its diagnostic to those of the other texts, and nothing else. -/
theorem discover_of_error (settings : Settings) (front back : List SourceText)
    {bad : SourceText} {error : SyntaxError} (fails : parseFile bad.text = .error error) :
    ∃ before after, (discover settings (front ++ back)).diagnostics = before ++ after ∧
      discover settings (front ++ bad :: back) =
        { discover settings (front ++ back) with
          diagnostics := before ++ parseProblem bad error :: after
          files := (front ++ back).length + 1 } := by
  have refused := factsOf_of_error settings fails
  have facts : parsedFacts settings (front ++ bad :: back) =
      parsedFacts settings (front ++ back) := by
    simp [parsedFacts, refused, Except.toOption]
  have problems : parseProblems settings (front ++ bad :: back) =
      parseProblems settings front ++ parseProblem bad error :: parseProblems settings back := by
    simp [parseProblems, refused]
  refine ⟨parseProblems settings front, parseProblems settings back ++
    (analyze settings (parsedFacts settings (front ++ back))).diagnostics, ?_, ?_⟩
  · simp [discover, parseProblems]
  · simp [discover, facts, problems, Nat.add_assoc]

/-! ## Isolation -/

/-- Discovery keeps declarations apart. -/
structure Isolates (settings : Settings) : Prop where
  /-- A text that does not parse adds one error. -/
  unparsed : ∀ (front back : List SourceText) (bad : SourceText) (error : SyntaxError),
    parseFile bad.text = .error error →
      ∃ before after, (discover settings (front ++ back)).diagnostics = before ++ after ∧
        discover settings (front ++ bad :: back) =
          { discover settings (front ++ back) with
            diagnostics := before ++ parseProblem bad error :: after
            files := (front ++ back).length + 1 }
  /-- Each declaration is looked at by itself, with tables that hold no declaration. -/
  apart : ∀ files, analyze settings files = .concat (files.map
    (apartFindings (Index.ofFiles (files.map FileFacts.withoutItems)) settings))
  /-- Other attributes on one item change what this item gives, and nothing before or after it. -/
  redeclared : ∀ (front back : List FileFacts) (file : FileFacts)
    (before after : List DeclaredItem) (item : DeclaredItem),
    ∃ left right : Findings, ∀ attributes,
      analyze settings (front ++ redeclared file before item after attributes :: back) =
        (left.append (itemFindings
          (Index.ofFiles ((front ++ file :: back).map FileFacts.withoutItems)) settings
          file.withoutItems { item with attributes })).append right
  /-- Each module attribute gives one module or one error, and the other attributes of an item
  together one service or one error. -/
  gives : ∀ (index : Index) (file : FileFacts) (item : DeclaredItem),
    ∃ modules service, itemFindings index settings file item =
        (Findings.concat modules).append service ∧
      List.Forall₂ (GivesModule file item) (item.attributes.filter (·.kind == .module)) modules ∧
      if item.attributes.any (·.kind != .module) then GivesService file item service
      else service = .none

theorem discovery_isolates (settings : Settings) : Isolates settings where
  unparsed front back _ _ fails := discover_of_error settings front back fails
  apart := analyze_eq_apart settings
  redeclared := analyze_redeclared settings
  gives index file item := itemFindings_gives index settings file item

def clockText : SourceText :=
  ⟨"src/clock.rs", "#[transient] pub struct Clock;"⟩

def brokenText : SourceText :=
  ⟨"src/broken.rs", "pub struct Broken \x7b"⟩

theorem discovery_isolates_clock :
    ∃ error, parseFile brokenText.text = .error error ∧
      (discover .default [clockText]).services.length = 1 ∧
      discover .default [clockText, brokenText] =
        { discover .default [clockText] with
          diagnostics := [parseProblem brokenText error]
          files := 2 } := by
  have quiet : (discover .default [clockText]).diagnostics = [] := by decide +kernel
  cases parsed : parseFile brokenText.text with
  | ok file =>
      have fails : (parseFile brokenText.text).isOk = false := by decide +kernel
      rw [parsed] at fails
      cases fails
  | error error =>
      refine ⟨error, rfl, by decide +kernel, ?_⟩
      obtain ⟨before, after, split, found⟩ :=
        (discovery_isolates .default).unparsed [clockText] [] brokenText error parsed
      rw [List.append_nil, quiet, eq_comm, List.append_eq_nil_iff] at split
      rw [split.1, split.2] at found
      exact found

end Wiring.Source
