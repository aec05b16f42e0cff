import Wiring.Proofs.Files.Canonical
import Wiring.Proofs.Outcome
import Wiring.Proofs.Plan.Consolidation
import Wiring.Proofs.Source.References
import Wiring.Proofs.Source.Visit
import Wiring.Workspace.Sources

/-!
# The program entry among the source files

Besides the file that the settings designate, a file counts as the program entry if its path ends
like the entry in the settings. Of the modules that such files make up one is left, that of the
first. See `programEntry_listed` and `nested_entry`.
-/

set_option autoImplicit false

namespace Wiring

open Wiring.Files
open Wiring.Plan
open Wiring.Source

/-! ## Paths that end like the entry -/

theorem Files.IsComponents.root_notMem_tail {parts : List String} (valid : IsComponents parts) :
    "/" ∉ parts.tail := by
  have noName : ¬IsName "/" := fun named => named.2.2 (by decide)
  cases valid with
  | relative names named => exact fun member => noName (named _ (List.mem_of_mem_tail member))
  | absolute names named => exact fun member => noName (named _ member)
  | dotted names named => exact fun member => noName (named _ member)

theorem Files.components_eq_of_absolute {path tail : String} (absolute : isAbsolute tail = true)
    (ends : components tail <:+ components path) : components path = components tail := by
  obtain ⟨front, whole⟩ := ends
  cases front with
  | nil => exact whole.symm
  | cons first front =>
      have root : "/" ∈ components tail := by
        rw [components, if_pos absolute]
        exact List.mem_cons_self
      refine absurd ?_ (isComponents_components path).root_notMem_tail
      rw [← whole]
      exact List.mem_append_right _ root

namespace Settings

/-- Whether the path of a file ends like an entry that the settings name relative to some directory,
whichever directory that is. -/
def EndsLikeEntry (settings : Settings) (file : String) : Prop :=
  isAbsolute settings.programEntry = false ∧
    components settings.programEntry <:+ components file

instance decidableEndsLikeEntry (settings : Settings) : DecidablePred settings.EndsLikeEntry :=
  fun _ => inferInstanceAs (Decidable (_ ∧ _))

theorem programEntryPath_of_absolute {settings : Settings}
    (absolute : isAbsolute settings.programEntry = true) :
    settings.programEntryPath = settings.programEntry := by
  rw [programEntryPath, resolve, join, if_pos absolute]

theorem isProgramEntry_iff (settings : Settings) (file : String) :
    settings.isProgramEntry file = true ↔
      samePath file settings.programEntryPath = true ∨ settings.EndsLikeEntry file := by
  have ends_iff : pathEndsWith file settings.programEntry = true ↔
      components settings.programEntry <:+ components file := List.isSuffixOf_iff_suffix
  have designated (absolute : isAbsolute settings.programEntry = true)
      (ends : components settings.programEntry <:+ components file) :
      samePath file settings.programEntryPath = true := by
    rw [programEntryPath_of_absolute absolute, samePath, beq_iff_eq]
    exact components_eq_of_absolute absolute ends
  have splits : components settings.programEntry <:+ components file →
      samePath file settings.programEntryPath = true ∨ settings.EndsLikeEntry file := by
    intro ends
    cases absolute : isAbsolute settings.programEntry with
    | true => exact .inl (designated absolute ends)
    | false => exact .inr ⟨absolute, ends⟩
  rw [isProgramEntry, Bool.or_eq_true, Bool.or_eq_true, ends_iff]
  constructor
  · rintro ((same | same) | ends)
    · exact .inl same
    · rw [samePath, beq_iff_eq] at same
      exact splits (same ▸ List.suffix_rfl)
    · exact splits ends
  · rintro (same | ⟨-, ends⟩)
    · exact .inl (.inl same)
    · exact .inr ends

end Settings

/-! ## Modules that files make up -/

namespace Source

/-- Whether a file makes up a module: it is a program that adds modules. -/
def makesUp (settings : Settings) (file : FileFacts) : Bool :=
  settings.autoGenerateModule && file.hasMain && !file.moduleCalls.isEmpty

/-- The files whose modules count, in the order of the scan. -/
def programs (settings : Settings) (files : List FileFacts) : List FileFacts :=
  files.filter fun file => makesUp settings file && settings.isProgramEntry file.path

section MadeUp

variable {index : Index} {settings : Settings} {file : FileFacts}

theorem autoGenerated_moduleOf {item : DeclaredItem} {found : FoundAttribute}
    {module : ModuleDescriptor} (made : moduleOf index settings file item found = .ok module) :
    module.autoGenerated = false := by
  unfold moduleOf at made
  split at made
  · cases made
  · simp only [Outcome.bind_eq_ok_iff, Outcome.pure_eq_ok_iff] at made
    obtain ⟨_, -, rfl⟩ := made
    rfl

theorem autoGenerated_itemFindings (index : Index) (settings : Settings) (file : FileFacts)
    (item : DeclaredItem) :
    (itemFindings index settings file item).modules.filter (·.autoGenerated) = [] := by
  rw [modules_itemFindings, List.filter_eq_nil_iff]
  intro module member
  obtain ⟨found, -, given⟩ := List.mem_flatMap.mp member
  unfold moduleFindings at given
  split at given
  · rename_i made
    rw [List.mem_singleton.mp given, autoGenerated_moduleOf made]
    exact Bool.false_ne_true
  · cases given

theorem autoGenerated_fileFindings (index : Index) (settings : Settings) (file : FileFacts) :
    (fileFindings index settings file).modules.filter (·.autoGenerated) =
      if makesUp settings file then [programModule index settings file] else [] := by
  have items : (Findings.concat (file.items.map (itemFindings index settings file))).modules.filter
      (·.autoGenerated) = [] := by
    rw [modules_concat, List.filter_flatMap, List.flatMap_eq_nil_iff]
    exact fun item _ => autoGenerated_itemFindings index settings file item
  rw [fileFindings, Findings.append, Findings.append, List.nil_append, List.filter_append, items,
    List.nil_append, programFindings, makesUp]
  split <;> rfl

theorem autoGenerated_analyze (settings : Settings) (files : List FileFacts) :
    (analyze settings files).modules.filter (·.autoGenerated) =
      (files.filter (makesUp settings)).map (programModule (.ofFiles files) settings) := by
  rw [analyze, modules_concat, List.filter_flatMap]
  generalize Index.ofFiles files = index
  simp only [autoGenerated_fileFindings]
  induction files with
  | nil => rfl
  | cons file files ih =>
      rw [List.flatMap_cons, ih, List.filter_cons]
      split <;> rfl

end MadeUp

/-! ## The module that is left -/

section Left

variable {settings : Settings} {files : List FileFacts} {module : ModuleDescriptor}

/-- The identity of all modules that are made up. -/
def programIdentity (settings : Settings) : String × String :=
  (settings.rootNamespace, "ProgramModule")

/-- The modules of some findings that count, whatever file they come from. -/
def counted (settings : Settings) (modules : List ModuleDescriptor) : List ModuleDescriptor :=
  modules.filter fun module => !module.autoGenerated ||
    (settings.autoGenerateModule && settings.isProgramEntry module.sourceFile)

theorem keptModules_discover (settings : Settings) (modules : List ModuleDescriptor) :
    keptModules (modules.map fun module => (module, settings)) = counted settings modules := by
  rw [keptModules, List.filter_map, List.map_map, counted]
  exact List.map_id _

/-- The modules that are made up and count are those of the programs. -/
theorem autoGenerated_counted (settings : Settings) (files : List FileFacts) :
    (counted settings (analyze settings files).modules).filter (·.autoGenerated) =
      (programs settings files).map (programModule (.ofFiles files) settings) := by
  rw [counted, List.filter_comm, autoGenerated_analyze, List.filter_map, List.filter_filter]
  refine congrArg _ (List.filter_congr fun file _ => ?_)
  show ((!true || settings.autoGenerateModule && settings.isProgramEntry file.path) &&
    makesUp settings file) = (makesUp settings file && settings.isProgramEntry file.path)
  cases made : settings.autoGenerateModule with
  | false => simp [makesUp, made]
  | true => simp [Bool.and_comm]

theorem identity_of_autoGenerated
    (counts : module ∈ counted settings (analyze settings files).modules)
    (madeUp : module.autoGenerated = true) : module.identity = programIdentity settings := by
  have member : module ∈ (counted settings (analyze settings files).modules).filter
      (·.autoGenerated) := List.mem_filter.mpr ⟨counts, madeUp⟩
  rw [autoGenerated_counted] at member
  obtain ⟨file, -, rfl⟩ := List.mem_map.mp member
  rfl

/-- Whether no declaration is the module that programs make up. -/
def Undeclared (settings : Settings) (modules : List ModuleDescriptor) : Prop :=
  ∀ module ∈ modules, module.identity = programIdentity settings → module.autoGenerated = true

theorem undeclared_counted {modules : List ModuleDescriptor} :
    Undeclared settings (counted settings modules) ↔ Undeclared settings modules := by
  constructor
  · intro undeclared module member same
    by_contra declared
    have counts : module ∈ counted settings modules := by
      rw [counted, List.mem_filter, Bool.eq_false_iff.mpr declared]
      exact ⟨member, rfl⟩
    exact declared (undeclared module counts same)
  · exact fun undeclared module member => undeclared module (List.mem_of_mem_filter member)

/-- Where no declaration is the module of the programs, the first of that identity is the first
program's. -/
theorem find?_counted (undeclared : Undeclared settings (analyze settings files).modules) :
    (counted settings (analyze settings files).modules).find?
        (fun module => module.identity == programIdentity settings) =
      (programs settings files).head?.map (programModule (.ofFiles files) settings) := by
  have same : ∀ module ∈ counted settings (analyze settings files).modules,
      (module.identity == programIdentity settings) = module.autoGenerated := by
    intro module member
    rw [Bool.eq_iff_iff, beq_iff_eq]
    exact ⟨undeclared_counted.mpr undeclared module member, identity_of_autoGenerated member⟩
  rw [← List.head?_filter, List.filter_congr same, autoGenerated_counted, List.head?_map]

/-- Of the modules that are made up the first program's is left, unless a declaration has its
identity. -/
theorem left_iff (settings : Settings) (files : List FileFacts) (module : ModuleDescriptor) :
    module ∈ (consolidate ((analyze settings files).modules.map (·, settings))).modules ∧
        module.autoGenerated = true ↔
      Undeclared settings (analyze settings files).modules ∧
        (programs settings files).head?.map (programModule (.ofFiles files) settings) =
          some module := by
  have settles := settles_keptModules ((analyze settings files).modules.map (·, settings))
  rw [keptModules_discover] at settles
  constructor
  · rintro ⟨member, madeUp⟩
    rcases settles.chosen module member with found | ⟨others, found⟩
    · have declared := List.find?_some found
      simp [madeUp] at declared
    · have identity := identity_of_autoGenerated (List.mem_of_find?_eq_some found) madeUp
      rw [identity] at others found
      have undeclared := undeclared_counted.mp others
      exact ⟨undeclared, (find?_counted undeclared).symm.trans found⟩
  · rintro ⟨undeclared, first⟩
    have found := (find?_counted undeclared).trans first
    have counts := List.mem_of_find?_eq_some found
    obtain ⟨left, member, same⟩ :=
      List.mem_map.mp ((settles.identities _).mpr (List.mem_map_of_mem counts))
    have identity : module.identity = programIdentity settings := by
      simpa using List.find?_some found
    rcases settles.chosen left member with declared | ⟨others, chosen⟩
    · have counts := List.mem_of_find?_eq_some declared
      have byUser := List.find?_some declared
      have madeUp := undeclared_counted.mpr undeclared left counts (same.trans identity)
      simp [madeUp] at byUser
    · rw [same, identity, found, Option.some_inj] at chosen
      subst chosen
      exact ⟨member, others module counts same⟩

end Left

end Source

/-! ## Source files -/

section Listed

variable {workspace : Workspace} {settings : Settings} {files : List String}
  {sources : List SourceText} {isCancelled : Bool}

theorem Workspace.paths_of_sources (listed : workspace.sourceFiles settings = .ok files)
    (read : workspace.sources settings isCancelled = .ok sources) :
    sources.map (·.path) = files := by
  rw [Workspace.sources, listed] at read
  change (if isCancelled && !files.isEmpty then _ else _) = _ at read
  split at read
  · cases read
  · rename_i goesOn
    have texts := Outcome.forall₂_of_mapM read
    clear listed read goesOn
    induction texts with
    | nil => rfl
    | cons one _ ih =>
        rw [List.map_cons, ih]
        unfold Workspace.sourceText at one
        split at one
        · obtain rfl := Except.ok.inj one
          rfl
        · cases one

theorem length_le_one {α : Type} {items : List α} (distinct : items.Nodup)
    (alike : ∀ one ∈ items, ∀ other ∈ items, one = other) : items.length ≤ 1 := by
  cases items with
  | nil => exact Nat.zero_le 1
  | cons first rest =>
      cases rest with
      | nil => exact Nat.le_refl 1
      | cons second rest =>
          have same := alike first List.mem_cons_self second (by simp)
          simp [same] at distinct

theorem path_mem_of_parsedFacts {facts : FileFacts}
    (parsed : facts ∈ parsedFacts settings sources) : facts.path ∈ sources.map (·.path) := by
  obtain ⟨source, member, found⟩ := List.mem_filterMap.mp parsed
  refine List.mem_map.mpr ⟨source, member, ?_⟩
  unfold factsOf at found
  dsimp only at found
  split at found
  · obtain rfl := Option.some.inj found
    exact (FileFacts.path_collect ..).symm
  · cases found

/-- A source file counts as the program entry exactly if it is the designated file or its path ends
like the entry. Of all modules that are made up at most one is left: that of the first such file
that is a program and adds modules, unless a declaration has its identity. -/
theorem programEntry_listed (listed : workspace.sourceFiles settings = .ok files) :
    (∀ file ∈ files, settings.isProgramEntry file = true ↔
      samePath file settings.programEntryPath = true ∨ settings.EndsLikeEntry file) ∧
    ∀ isCancelled sources, workspace.sources settings isCancelled = .ok sources →
      let found := (discover settings sources).modules
      let left := (consolidate found).modules.filter (·.autoGenerated)
      left.length ≤ 1 ∧
      ∀ module, module ∈ left ↔
        Undeclared settings (found.map (·.1)) ∧
          ∃ file, (programs settings (parsedFacts settings sources)).head? = some file ∧
            file.path ∈ files ∧ settings.isProgramEntry file.path = true ∧
            module = programModule (tables settings sources) settings file := by
  refine ⟨fun file _ => settings.isProgramEntry_iff file, fun isCancelled sources read => ?_⟩
  dsimp only [discover]
  have left_iff := left_iff settings (parsedFacts settings sources)
  constructor
  · have distinct := (List.Nodup.of_map _ (nodup_consolidate
      ((analyze settings (parsedFacts settings sources)).modules.map (·, settings)))).filter
        (·.autoGenerated)
    have alike := fun module member => ((left_iff module).mp (List.mem_filter.mp member)).2
    exact length_le_one distinct fun one first other second =>
      Option.some_inj.mp ((alike one first).symm.trans (alike other second))
  · intro module
    rw [List.mem_filter, left_iff, List.map_map, Option.map_eq_some_iff]
    refine and_congr (by rw [Function.comp_def, List.map_id']) (exists_congr fun file => ?_)
    constructor
    · rintro ⟨first, rfl⟩
      obtain ⟨parsed, counts⟩ := List.mem_filter.mp (List.mem_of_head? first)
      rw [Bool.and_eq_true] at counts
      exact ⟨first, Workspace.paths_of_sources listed read ▸ path_mem_of_parsedFacts parsed,
        counts.2, rfl⟩
    · rintro ⟨first, -, -, rfl⟩
      exact ⟨first, rfl⟩

end Listed

/-! ## A nested crate -/

def nestedText : String :=
  "fn main() \x7b services.add_module(Extra); \x7d\n"

def mainText : String :=
  "fn main() \x7b services.add_module(App); \x7d\n"

def nestedSources : Workspace.Node :=
  .directory [("app", .directory [("src", .directory [("main.rs", .file nestedText.toUTF8)])]),
    ("main.rs", .file mainText.toUTF8)]

def nestedWorkspace : Workspace :=
  ⟨.directory [("src", nestedSources)], []⟩

def nestedTexts : List SourceText :=
  [⟨"./src/app/src/main.rs", nestedText⟩, ⟨"./src/main.rs", mainText⟩]

def programSettings : Settings :=
  { Settings.default with autoGenerateModule := true }

theorem sourceFiles_nested : nestedWorkspace.sourceFiles programSettings =
    .ok ["./src/app/src/main.rs", "./src/main.rs"] := by
  have found : nestedWorkspace.node "./src" = .ok nestedSources := rfl
  have path : programSettings.sourcePath = "./src" := by decide
  have nested : Workspace.isSourcePath "./src/app/src/main.rs" = true := by decide
  have main : Workspace.isSourcePath "./src/main.rs" = true := by decide
  have sorted : Workspace.byName [("app", ["./src/app/src/main.rs"]),
      ("main.rs", ["./src/main.rs"])] =
        [("app", ["./src/app/src/main.rs"]), ("main.rs", ["./src/main.rs"])] :=
    List.mergeSort_of_pairwise (by decide)
  have alone (entry : String × List String) : Workspace.byName [entry] = [entry] :=
    List.mergeSort_singleton entry
  have deeper : join (join (join "./src" "app") "src") "main.rs" = "./src/app/src/main.rs" := by
    decide
  have below : join "./src" "main.rs" = "./src/main.rs" := by decide
  rw [Workspace.sourceFiles, path, found]
  simp only [nestedSources, Workspace.sourcesBelow, Workspace.entrySources, deeper, below, nested,
    main, if_true, alone, sorted, List.flatMap_cons, List.flatMap_nil, List.append_nil,
    List.singleton_append]

theorem sources_nested :
    nestedWorkspace.sources programSettings false = .ok nestedTexts := by
  have nested : nestedWorkspace.sourceText "./src/app/src/main.rs" =
      .ok ⟨"./src/app/src/main.rs", nestedText⟩ := by decide +kernel
  have main : nestedWorkspace.sourceText "./src/main.rs" = .ok ⟨"./src/main.rs", mainText⟩ := by
    decide +kernel
  rw [Workspace.sources, sourceFiles_nested]
  show List.mapM nestedWorkspace.sourceText _ = _
  rw [List.mapM_cons, List.mapM_cons, nested, main]
  rfl

theorem programEntry_listed_nested :
    programSettings.isProgramEntry "./src/app/src/main.rs" = true ∧
      ∀ module ∈ (consolidate (discover programSettings nestedTexts).modules).modules,
        module.autoGenerated = true → module.sourceFile = "./src/app/src/main.rs" := by
  obtain ⟨entries, left⟩ := programEntry_listed sourceFiles_nested
  refine ⟨(entries _ List.mem_cons_self).mpr (.inr (by decide)), fun module member madeUp => ?_⟩
  obtain ⟨-, left⟩ := left false nestedTexts sources_nested
  obtain ⟨-, file, first, -, -, rfl⟩ :=
    (left module).mp (List.mem_filter.mpr ⟨member, madeUp⟩)
  have path : ((programs programSettings (parsedFacts programSettings nestedTexts)).head?.map
      (·.path)) = some "./src/app/src/main.rs" := by decide +kernel
  rw [first] at path
  exact Option.some_inj.mp path

/-- The module of the designated file is lost to one of a file that is not designated. -/
theorem nested_entry :
    nestedWorkspace.sourceFiles programSettings =
        .ok ["./src/app/src/main.rs", "./src/main.rs"] ∧
      samePath "./src/main.rs" programSettings.programEntryPath = true ∧
      samePath "./src/app/src/main.rs" programSettings.programEntryPath = false ∧
      programSettings.isProgramEntry "./src/app/src/main.rs" = true ∧
      ((consolidate (discover programSettings nestedTexts).modules).modules.map fun module =>
        (module.sourceFile, module.additionalModules)) =
          [("./src/app/src/main.rs", [.of "crate::app::src" "Extra"])] := by
  refine ⟨sourceFiles_nested, by decide, by decide, by decide, ?_⟩
  decide +kernel

end Wiring
