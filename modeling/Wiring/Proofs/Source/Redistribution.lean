import Mathlib.Data.List.Induction
import Wiring.Proofs.Source.Isolation
import Wiring.Proofs.Source.WrittenTypes

/-!
# Implementations and functions in other files

What the declarations of some files give does not depend on which files hold the implementations and
the functions, or in which scopes, as long as these resolve to the same. See `analyze_redistributed`
and `main_elsewhere`.
-/

set_option autoImplicit false

namespace Wiring.Source

open Wiring.Grammar
open Wiring.Grammar.SyntaxTree

/-! ## What is looked up across files -/

/-- The namespaces that some files make known. -/
def knownSpaces (files : List FileFacts) : List String :=
  files.flatMap Index.spacesOf

/-- The traits that implementations in some files give to a type, in the order of the files. -/
def implementedTraits (files : List FileFacts) (type : String) : List TypeName :=
  files.flatMap fun file =>
    ((file.traitImpls.map (Index.implEntry (knownSpaces files) file)).filter (·.1 == type)).map
      (·.2)

/-- The functions of a path, each with its file, in the order of the files. -/
def functionsAt (files : List FileFacts) (path : String) : List (FileFacts × FunctionFacts) :=
  files.flatMap fun file =>
    (file.functions.filter fun found =>
      Index.functionPath (knownSpaces files) file found == path).map fun found => (file, found)

section Tables

variable (files : List FileFacts)

theorem function?_ofFiles (path : String) :
    (Index.ofFiles files).function? path = (functionsAt files path).head? := by
  have entries : (Index.ofFiles files).functions.filter (·.1 == path) =
      (functionsAt files path).map fun entry => (path, entry) := by
    simp only [Index.ofFiles, List.filter_flatMap, List.filter_map, functionsAt, List.map_flatMap,
      List.map_map]
    congr 1
    funext file
    refine List.map_congr_left fun found member => ?_
    have same := (List.mem_filter.mp member).2
    rw [Function.comp_apply, beq_iff_eq] at same
    exact Prod.ext same rfl
  rw [Index.function?, ← List.head?_filter, entries, List.head?_map, Option.map_map]
  exact Option.map_id'

theorem eraseDups_snoc {α : Type} [BEq α] [LawfulBEq α] (values : List α) (last : α) :
    (values ++ [last]).eraseDups =
      if values.eraseDups.contains last then values.eraseDups
      else values.eraseDups ++ [last] := by
  rw [List.eraseDups_append]
  by_cases known : last ∈ values
  · simp [List.removeAll, known]
  · simp [List.removeAll, List.eraseDups_cons, known]

/-- The interfaces of a type are its traits in the order of the files, each where it comes first. -/
theorem interfacesOf_ofFiles (type : String) :
    (Index.ofFiles files).interfacesOf type = (implementedTraits files type).eraseDups := by
  have entries : ((Index.ofFiles files).interfaces.filter (·.1 == type)).map (·.2) =
      implementedTraits files type := by
    simp only [Index.ofFiles, List.filter_flatMap, implementedTraits, List.map_flatMap, knownSpaces]
  rw [Index.interfacesOf, entries]
  generalize implementedTraits files type = traits
  induction traits using List.reverseRecOn with
  | nil => rfl
  | append_singleton traits last ih => rw [List.foldl_append, ih, eraseDups_snoc]; rfl

end Tables

/-! ## Redistributed files -/

/-- A declaration where it stands: the number of its scope is replaced by the scope. -/
def FileFacts.sited (file : FileFacts) (item : DeclaredItem) : Scope × DeclaredItem :=
  (file.scope item.scope, { item with scope := 0 })

def FileFacts.sitedCall (file : FileFacts) (call : ModuleCall) : Scope × SyntaxTree :=
  (file.scope call.scope, call.module)

/-- Whether a file holds declarations or calls that add modules. -/
def FileFacts.declares (file : FileFacts) : Bool :=
  !file.items.isEmpty || !file.moduleCalls.isEmpty

/-- Whether two files have the same declarations and module calls, each in the same scope. -/
structure SameDeclarations (file file' : FileFacts) : Prop where
  path : file.path = file'.path
  items : file.items.map file.sited = file'.items.map file'.sited
  calls : file.moduleCalls.map file.sitedCall = file'.moduleCalls.map file'.sitedCall

/-- Whether two functions, among the files of each, take and return the same. The lines and the
scopes that they stand in do not matter. -/
structure SameFunction (files files' : List FileFacts) (entry entry' : FileFacts × FunctionFacts) :
    Prop where
  hasReceiver : entry.2.hasReceiver = entry'.2.hasReceiver
  returnsSelf : entry.2.returnsSelf = entry'.2.returnsSelf
  inputs : List.Forall₂ (fun input input' => input.1 = input'.1 ∧
    SameType (resolvePath (knownSpaces files) (entry.1.scope entry.2.scope))
      (resolvePath (knownSpaces files') (entry'.1.scope entry'.2.scope)) input.2 input'.2)
    entry.2.inputs entry'.2.inputs
  output : Option.Rel (fun type type' => sameCode type type' = true) entry.2.output entry'.2.output

/-- Whether files have the same declarations, module calls and namespaces, and differ only in where
implementations and functions stand: those of each type, and those of each path, are the same one
after the other. -/
structure Redistributed (files files' : List FileFacts) : Prop where
  declarations : List.Forall₂ SameDeclarations (files.filter FileFacts.declares)
    (files'.filter FileFacts.declares)
  spaces : ∀ space, space ∈ knownSpaces files ↔ space ∈ knownSpaces files'
  traits : ∀ type, implementedTraits files type = implementedTraits files' type
  functions : ∀ path, List.Forall₂ (SameFunction files files') (functionsAt files path)
    (functionsAt files' path)

/-! ## Look-ups -/

section LookUps

variable {files files' : List FileFacts}

theorem resolvePath_of_spaces {spaces spaces' : List String}
    (same : ∀ space, space ∈ spaces ↔ space ∈ spaces') :
    resolvePath spaces = resolvePath spaces' := by
  have contains (space : String) : spaces.contains space = spaces'.contains space := by
    rw [Bool.eq_iff_iff, List.contains_iff_mem, List.contains_iff_mem, same]
  have below : belowScope spaces = belowScope spaces' := by
    funext scope path
    simp only [belowScope, contains]
  funext scope path
  cases path with
  | nil => rfl
  | cons first rest => simp only [resolvePath, below]

theorem Redistributed.resolvePath_eq (redistributed : Redistributed files files') :
    resolvePath (Index.ofFiles files).spaces = resolvePath (Index.ofFiles files').spaces :=
  resolvePath_of_spaces redistributed.spaces

theorem Redistributed.resolve_eq (redistributed : Redistributed files files') :
    (Index.ofFiles files).resolve = (Index.ofFiles files').resolve := by
  funext scope path
  rw [Index.resolve, resolveType, redistributed.resolvePath_eq]
  rfl

theorem Redistributed.text_eq (redistributed : Redistributed files files') :
    (Index.ofFiles files).text = (Index.ofFiles files').text := by
  funext scope type
  refine text_congr_of_paths fun path _ => ?_
  rw [redistributed.resolvePath_eq]

theorem Redistributed.interfacesOf_eq (redistributed : Redistributed files files') :
    (Index.ofFiles files).interfacesOf = (Index.ofFiles files').interfacesOf := by
  funext type
  rw [interfacesOf_ofFiles, redistributed.traits, interfacesOf_ofFiles]

theorem rel_head?_of_forall₂ {α : Type} {R : α → α → Prop} {left right : List α}
    (pairs : List.Forall₂ R left right) : Option.Rel R left.head? right.head? := by
  cases pairs with
  | nil => exact .none
  | cons first _ => exact .some first

theorem Redistributed.function? (redistributed : Redistributed files files') (path : String) :
    Option.Rel (SameFunction files files') ((Index.ofFiles files).function? path)
      ((Index.ofFiles files').function? path) := by
  rw [function?_ofFiles, function?_ofFiles]
  exact rel_head?_of_forall₂ (redistributed.functions path)

/-! ## Constructors and factories -/

theorem map_eq_map_iff_forall₂ {α β γ : Type} {left : List α} {right : List β} {f : α → γ}
    {g : β → γ} :
    left.map f = right.map g ↔ List.Forall₂ (fun one other => f one = g other) left right := by
  rw [← List.forall₂_eq_eq_eq, List.forall₂_map_left_iff, List.forall₂_map_right_iff]

theorem Redistributed.constructorOf_eq (redistributed : Redistributed files files') :
    constructorOf (Index.ofFiles files) = constructorOf (Index.ofFiles files') := by
  funext id
  have found := redistributed.function? (id ++ "::new")
  unfold constructorOf
  revert found
  generalize (Index.ofFiles files).function? (id ++ "::new") = entry
  generalize (Index.ofFiles files').function? (id ++ "::new") = entry'
  intro found
  cases found with
  | none => rfl
  | @some entry entry' same =>
      have inputs : List.Forall₂ (fun input input' =>
          Parameter.mk input.1
              ((Index.ofFiles files).text (entry.1.scope entry.2.scope) input.2) =
            .mk input'.1 ((Index.ofFiles files').text (entry'.1.scope entry'.2.scope) input'.2))
          entry.2.inputs entry'.2.inputs := by
        refine same.inputs.imp fun input input' ⟨name, type⟩ => ?_
        have text : (Index.ofFiles files).text (entry.1.scope entry.2.scope) input.2 =
            (Index.ofFiles files').text (entry'.1.scope entry'.2.scope) input'.2 := text_congr type
        rw [name, text]
      dsimp only
      rw [same.hasReceiver, same.returnsSelf, map_eq_map_iff_forall₂.mpr inputs]

theorem Redistributed.factoryOf_toOption (redistributed : Redistributed files files')
    {file file' : FileFacts} {service service' : TypeName} (path : String) (line line' : Nat) :
    (factoryOf (Index.ofFiles files) file service path line).toOption =
      (factoryOf (Index.ofFiles files') file' service' path line').toOption := by
  have found := redistributed.function? path
  unfold factoryOf
  revert found
  generalize (Index.ofFiles files).function? path = entry
  generalize (Index.ofFiles files').function? path = entry'
  intro found
  cases found with
  | none => rfl
  | @some entry entry' same =>
      have parameters : factoryParameters (Index.ofFiles files) (entry.1.scope entry.2.scope)
            entry.2.inputs =
          factoryParameters (Index.ofFiles files') (entry'.1.scope entry'.2.scope)
            entry'.2.inputs := factoryParameters_congr same.inputs
      dsimp only
      rw [same.hasReceiver, parameters, returnsInstance_congr same.output]
      cases entry'.2.hasReceiver with
      | true => rfl
      | false =>
          simp only [Bool.false_eq_true, if_false]
          cases factoryParameters (Index.ofFiles files') (entry'.1.scope entry'.2.scope)
            entry'.2.inputs with
          | error => rfl
          | ok parameters =>
              dsimp only
              split <;> rfl

end LookUps

/-! ## Declarations -/

section Declarations

variable {files files' : List FileFacts} {file file' : FileFacts} {item item' : DeclaredItem}

theorem Redistributed.reference_eq (redistributed : Redistributed files files') :
    reference (Index.ofFiles files) = reference (Index.ofFiles files') := by
  funext scope raw
  rw [reference, redistributed.resolve_eq, reference]

theorem eq_of_sited (same : file.sited item = file'.sited item') :
    file.scope item.scope = file'.scope item'.scope ∧
      item' = { item with scope := item'.scope } := by
  obtain ⟨scopes, items⟩ := Prod.mk.inj same
  have sited := congrArg (fun found : DeclaredItem => { found with scope := item'.scope }) items
  exact ⟨scopes, sited.symm⟩

theorem Redistributed.moduleOf_eq (redistributed : Redistributed files files')
    (settings : Settings) (path : file.path = file'.path)
    (same : file.sited item = file'.sited item') (found : FoundAttribute) :
    moduleOf (Index.ofFiles files) settings file item found =
      moduleOf (Index.ofFiles files') settings file' item' found := by
  obtain ⟨scopes, whole⟩ := eq_of_sited same
  rw [whole]
  simp only [moduleOf, DeclaredItem.type, path, scopes, redistributed.constructorOf_eq,
    redistributed.resolve_eq, redistributed.text_eq, redistributed.reference_eq]

theorem Redistributed.gather_eq (redistributed : Redistributed files files')
    (path : file.path = file'.path) (same : file.sited item = file'.sited item')
    (gathered : Gathered) (found : FoundAttribute) :
    gather (Index.ofFiles files) file item gathered found =
      gather (Index.ofFiles files') file' item' gathered found := by
  obtain ⟨scopes, whole⟩ := eq_of_sited same
  rw [whole]
  simp only [gather, registrationOf, path, scopes, redistributed.resolve_eq]

theorem Redistributed.gatherAll_eq (redistributed : Redistributed files files')
    (path : file.path = file'.path) (same : file.sited item = file'.sited item')
    (gathered : Gathered) (attributes : List FoundAttribute) :
    gatherAll (Index.ofFiles files) file item gathered attributes =
      gatherAll (Index.ofFiles files') file' item' gathered attributes := by
  induction attributes generalizing gathered with
  | nil => rfl
  | cons found rest ih =>
      simp only [gatherAll, redistributed.gather_eq path same gathered found, ih]

/-- A declaration gives the same service in both, or none in either. -/
theorem Redistributed.serviceOf_toOption (redistributed : Redistributed files files')
    (path : file.path = file'.path) (same : file.sited item = file'.sited item') :
    (serviceOf (Index.ofFiles files) file item).toOption =
      (serviceOf (Index.ofFiles files') file' item').toOption := by
  have gathers := redistributed.gatherAll_eq path same
  have scopes : file.scope item.scope = file'.scope item'.scope := congrArg (·.1) same
  have name : item.name = item'.name := congrArg (·.2.name) same
  have arity : item.typeParameters = item'.typeParameters := congrArg (·.2.typeParameters) same
  have attributes : item.attributes = item'.attributes := congrArg (·.2.attributes) same
  have factory (service : TypeName) (path : String) (line : Nat) :
      (factoryOf (Index.ofFiles files) file service path line).toOption =
        (factoryOf (Index.ofFiles files') file' service path line).toOption :=
    redistributed.factoryOf_toOption path line line
  simp only [serviceOf, DeclaredItem.type, gathers, scopes, name, arity, attributes, path,
    redistributed.interfacesOf_eq, Outcome.toOption_bind]
  generalize (gatherAll (Index.ofFiles files') file' _ _ _).toOption = found
  refine congrArg found.bind (funext fun gathered => ?_)
  generalize TypeName.mk _ _ item'.typeParameters = type
  by_cases empty : gathered.registrations.isEmpty = true
  · rw [if_pos empty, if_pos empty]
  · rw [if_neg empty, if_neg empty]
    cases gathered.factory with
    | none => rfl
    | some named => simp only [Outcome.toOption_bind, factory]

end Declarations

/-! ## Files -/

section Files

variable {files files' : List FileFacts} {file file' : FileFacts} (index : Index)
  (settings : Settings)

theorem services_fileFindings (file : FileFacts) :
    (fileFindings index settings file).services =
      file.items.flatMap fun item => (serviceOf index file item).toOption.join.toList := by
  have program : (programFindings index settings file).services = [] := by
    unfold programFindings
    split <;> rfl
  have items (item : DeclaredItem) : (serviceFindings index file item).services =
      (serviceOf index file item).toOption.join.toList := by
    rw [serviceFindings]
    cases serviceOf index file item with
    | error => rfl
    | ok found => cases found <;> rfl
  rw [fileFindings, Findings.append, Findings.append, program, services_concat, List.append_nil]
  simp only [services_itemFindings, items, List.nil_append]

theorem modules_fileFindings (file : FileFacts) :
    (fileFindings index settings file).modules =
      (file.items.flatMap fun item => (itemFindings index settings file item).modules) ++
        (programFindings index settings file).modules := by
  rw [fileFindings, Findings.append, Findings.append, modules_concat, List.nil_append]

theorem flatMap_eq_of_forall₂ {α β : Type} {R : α → α → Prop} {left right : List α}
    {one other : α → List β} (pairs : List.Forall₂ R left right)
    (same : ∀ a b, R a b → one a = other b) : left.flatMap one = right.flatMap other := by
  rw [← List.forall₂_eq_eq_eq]
  refine List.rel_flatMap pairs fun a b related => ?_
  rw [List.forall₂_eq_eq_eq]
  exact same a b related

theorem flatMap_declares {α : Type} (findings : FileFacts → List α)
    (nothing : ∀ file, file.declares = false → findings file = []) (files : List FileFacts) :
    files.flatMap findings = (files.filter FileFacts.declares).flatMap findings := by
  induction files with
  | nil => rfl
  | cons file files ih =>
      rw [List.flatMap_cons, ih, List.filter_cons]
      cases declares : file.declares with
      | true => rfl
      | false => rw [nothing file declares]; rfl

theorem eq_nil_of_not_declares (nothing : file.declares = false) :
    file.items = [] ∧ file.moduleCalls = [] := by
  simpa [FileFacts.declares] using nothing

theorem Redistributed.services_file (redistributed : Redistributed files files')
    (same : SameDeclarations file file') :
    (fileFindings (.ofFiles files) settings file).services =
      (fileFindings (.ofFiles files') settings file').services := by
  rw [services_fileFindings, services_fileFindings]
  refine flatMap_eq_of_forall₂ (map_eq_map_iff_forall₂.mp same.items) fun item item' sited => ?_
  rw [redistributed.serviceOf_toOption same.path sited]

theorem Redistributed.modules_item (redistributed : Redistributed files files')
    {item item' : DeclaredItem} (path : file.path = file'.path)
    (same : file.sited item = file'.sited item') :
    (itemFindings (.ofFiles files) settings file item).modules =
      (itemFindings (.ofFiles files') settings file' item').modules := by
  have attributes : item.attributes = item'.attributes :=
    congrArg (·.2.attributes) same
  simp only [modules_itemFindings, moduleFindings, attributes, path,
    redistributed.moduleOf_eq settings path same]

theorem Redistributed.programModule_eq (redistributed : Redistributed files files')
    (same : SameDeclarations file file') :
    programModule (.ofFiles files) settings file =
      programModule (.ofFiles files') settings file' := by
  have calls : (file.moduleCalls.map fun call =>
        (Index.ofFiles files).resolve (file.scope call.scope) call.module) =
      file'.moduleCalls.map fun call =>
        (Index.ofFiles files').resolve (file'.scope call.scope) call.module := by
    have each := congrArg (List.map fun call : Scope × SyntaxTree =>
      (Index.ofFiles files').resolve call.1 call.2) same.calls
    rw [List.map_map, List.map_map] at each
    rw [redistributed.resolve_eq]
    exact each
  rw [programModule, calls, same.path, programModule]

theorem Redistributed.modules_file (redistributed : Redistributed files files')
    (same : SameDeclarations file file')
    (main : file.moduleCalls ≠ [] → file.hasMain = file'.hasMain) :
    (fileFindings (.ofFiles files) settings file).modules =
      (fileFindings (.ofFiles files') settings file').modules := by
  have program : (programFindings (.ofFiles files) settings file).modules =
      (programFindings (.ofFiles files') settings file').modules := by
    have calls : file.moduleCalls.isEmpty = file'.moduleCalls.isEmpty := by
      have each := congrArg List.isEmpty same.calls
      rwa [List.isEmpty_map, List.isEmpty_map] at each
    rw [programFindings, redistributed.programModule_eq settings same, programFindings, calls]
    cases empty : file'.moduleCalls.isEmpty with
    | true => simp
    | false =>
        have some : file.moduleCalls ≠ [] := by
          intro none
          rw [none, empty] at calls
          cases calls
        rw [main some]
  rw [modules_fileFindings, modules_fileFindings, program]
  congr 1
  exact flatMap_eq_of_forall₂ (map_eq_map_iff_forall₂.mp same.items) fun item item' sited =>
    redistributed.modules_item settings same.path sited

end Files

/-! ## Analysis -/

section Analysis

variable {files files' : List FileFacts} {settings : Settings}

theorem interfaces_of_serviceOf {index : Index} {file : FileFacts} {item : DeclaredItem}
    {service : ServiceDescriptor} (made : serviceOf index file item = .ok (some service)) :
    service.interfaces = index.interfacesOf service.implementation.fullName := by
  simp only [serviceOf, Outcome.bind_eq_ok_iff] at made
  obtain ⟨gathered, -, made⟩ := made
  by_cases empty : gathered.registrations.isEmpty = true
  · rw [if_pos empty] at made
    cases made
  · rw [if_neg empty] at made
    cases named : gathered.factory with
    | none =>
        simp only [named, Outcome.bind_eq_ok_iff, Outcome.pure_eq_ok_iff] at made
        obtain ⟨_, -, found⟩ := made
        rw [← Option.some.inj found]
    | some entry =>
        simp only [named, Outcome.bind_eq_ok_iff, Outcome.pure_eq_ok_iff] at made
        obtain ⟨_, -, _, -, found⟩ := made
        rw [← Option.some.inj found]

/-- Whether a file with module calls defines `main` in both lists or in neither. -/
def SamePrograms (files files' : List FileFacts) : Prop :=
  List.Forall₂ (fun file file' => file.moduleCalls ≠ [] → file.hasMain = file'.hasMain)
    (files.filter FileFacts.declares) (files'.filter FileFacts.declares)

theorem analyze_redistributed (settings : Settings) (redistributed : Redistributed files files') :
    (analyze settings files).services = (analyze settings files').services ∧
    (SamePrograms files files' →
      (analyze settings files).modules = (analyze settings files').modules) ∧
    ∀ service ∈ (analyze settings files).services,
      service.interfaces =
        (implementedTraits files service.implementation.fullName).eraseDups := by
  have nothing (index : Index) (file : FileFacts) (none : file.declares = false) :
      (fileFindings index settings file).services = [] ∧
        (fileFindings index settings file).modules = [] := by
    obtain ⟨items, calls⟩ := eq_nil_of_not_declares none
    rw [services_fileFindings, modules_fileFindings, items, programFindings, calls]
    simp [Findings.none]
  refine ⟨?_, fun programs => ?_, fun service member => ?_⟩
  · simp only [analyze, services_concat]
    rw [flatMap_declares _ (fun file none => (nothing _ file none).1) files,
      flatMap_declares _ (fun file none => (nothing _ file none).1) files']
    exact flatMap_eq_of_forall₂ redistributed.declarations fun file file' same =>
      redistributed.services_file settings same
  · simp only [analyze, modules_concat]
    rw [flatMap_declares _ (fun file none => (nothing _ file none).2) files,
      flatMap_declares _ (fun file none => (nothing _ file none).2) files']
    have pairs := redistributed.declarations.mp (fun _ _ => And.intro) programs
    exact flatMap_eq_of_forall₂ pairs fun file file' same =>
      redistributed.modules_file settings same.1 same.2
  · simp only [analyze, services_concat, services_fileFindings, List.mem_flatMap] at member
    obtain ⟨file, -, item, -, given⟩ := member
    rw [Option.mem_toList, Option.join_eq_some_iff] at given
    have made : serviceOf (.ofFiles files) file item = .ok (some service) := by
      cases outcome : serviceOf (.ofFiles files) file item with
      | error => rw [outcome] at given; cases given
      | ok found => rw [outcome] at given; exact congrArg _ (Option.some.inj given)
    rw [interfaces_of_serviceOf made, interfacesOf_ofFiles]

end Analysis

/-! ## Files that were moved -/

section Moved

variable {files files' : List FileFacts}

/-- All functions of some files, each with its file. -/
def allFunctions (files : List FileFacts) : List (FileFacts × FunctionFacts) :=
  files.flatMap fun file => file.functions.map fun found => (file, found)

/-- All implementations in some files: the types and the traits. -/
def allTraits (files : List FileFacts) : List (String × TypeName) :=
  files.flatMap fun file => file.traitImpls.map (Index.implEntry (knownSpaces files) file)

theorem implementedTraits_eq (files : List FileFacts) (type : String) :
    implementedTraits files type = ((allTraits files).filter (·.1 == type)).map (·.2) := by
  simp only [implementedTraits, allTraits, List.filter_flatMap, List.map_flatMap]

theorem functionsAt_eq (files : List FileFacts) (path : String) :
    functionsAt files path = (allFunctions files).filter fun entry =>
      Index.functionPath (knownSpaces files) entry.1 entry.2 == path := by
  simp only [functionsAt, allFunctions, List.filter_flatMap, List.filter_map]
  rfl

theorem forall₂_filter {α : Type} {R : α → α → Prop} {left right : List α} {p q : α → Bool}
    (pairs : List.Forall₂ (fun one other => p one = q other ∧ R one other) left right) :
    List.Forall₂ R (left.filter p) (right.filter q) :=
  (List.rel_filter (fun _ _ same => Bool.eq_iff_iff.mp same.1) pairs).imp fun _ _ same => same.2

/-- Implementations and functions that are the same one after the other are so for each type and
each path. -/
theorem Redistributed.of_moved
    (declarations : List.Forall₂ SameDeclarations (files.filter FileFacts.declares)
      (files'.filter FileFacts.declares))
    (spaces : ∀ space, space ∈ knownSpaces files ↔ space ∈ knownSpaces files')
    (traits : allTraits files = allTraits files')
    (functions : List.Forall₂ (fun entry entry' =>
      Index.functionPath (knownSpaces files) entry.1 entry.2 =
          Index.functionPath (knownSpaces files') entry'.1 entry'.2 ∧
        SameFunction files files' entry entry') (allFunctions files) (allFunctions files')) :
    Redistributed files files' where
  declarations := declarations
  spaces := spaces
  traits type := by rw [implementedTraits_eq, traits, implementedTraits_eq]
  functions path := by
    rw [functionsAt_eq, functionsAt_eq]
    exact forall₂_filter (functions.imp fun entry entry' same => ⟨by rw [same.1], same.2⟩)

instance decidableSamePaths (resolve resolve' : List String → String) :
    DecidablePred (SamePaths resolve resolve') :=
  fun tree => inferInstanceAs (Decidable (∀ path ∈ namedPaths tree, _ = _))

theorem sameCode_self (tree : SyntaxTree) : sameCode tree tree = true :=
  (sameCode_iff tree tree).mpr rfl

/-- A function that is held by another file takes and returns the same, if its parameters have the
same meaning there. -/
theorem sameFunction_of_moved {file file' : FileFacts} {found : FunctionFacts}
    (inputs : ∀ input ∈ found.inputs,
      SamePaths (resolvePath (knownSpaces files) (file.scope found.scope))
        (resolvePath (knownSpaces files') (file'.scope found.scope)) input.2) :
    SameFunction files files' (file, found) (file', found) where
  hasReceiver := rfl
  returnsSelf := rfl
  inputs := List.forall₂_same.mpr fun input member =>
    ⟨rfl, sameCode_self input.2, inputs input member⟩
  output := by
    cases found.output with
    | none => exact .none
    | some type => exact .some (sameCode_self type)

def FileFacts.holding (file : FileFacts) (traitImpls : List TraitImpl)
    (functions : List FunctionFacts) (hasMain : Bool) : FileFacts :=
  { file with traitImpls, functions, hasMain }

/-- Implementations and functions at the end of a file can be moved to the file behind it, if it has
none and they have the same meaning there. -/
theorem redistributed_holding (file other : FileFacts) (hasMain hasMain' : Bool)
    {keptTraits movedTraits : List TraitImpl} {kept moved : List FunctionFacts}
    (traits : file.traitImpls = keptTraits ++ movedTraits)
    (functions : file.functions = kept ++ moved)
    (none : other.traitImpls = [] ∧ other.functions = [])
    (sameTraits : ∀ found ∈ movedTraits,
      Index.implEntry (knownSpaces [file, other]) file found =
        Index.implEntry (knownSpaces [file, other]) other found)
    (sameFunctions : ∀ found ∈ moved,
      Index.functionPath (knownSpaces [file, other]) file found =
          Index.functionPath (knownSpaces [file, other]) other found ∧
        ∀ input ∈ found.inputs,
          SamePaths (resolvePath (knownSpaces [file, other]) (file.scope found.scope))
            (resolvePath (knownSpaces [file, other]) (other.scope found.scope)) input.2) :
    Redistributed [file, other]
      [file.holding keptTraits kept hasMain, other.holding movedTraits moved hasMain'] := by
  have stays (file : FileFacts) (traitImpls : List TraitImpl) (functions : List FunctionFacts)
      (hasMain : Bool) :
      file.declares = (file.holding traitImpls functions hasMain).declares ∧
        SameDeclarations file (file.holding traitImpls functions hasMain) :=
    ⟨rfl, rfl, rfl, rfl⟩
  refine .of_moved ?_ (fun _ => Iff.rfl) ?_ ?_
  · exact forall₂_filter (.cons (stays ..) (.cons (stays ..) .nil))
  · simp only [allTraits, List.flatMap_cons, List.flatMap_nil, traits, none.1, List.map_append,
      List.map_nil, List.append_nil]
    exact congrArg _ (List.map_congr_left sameTraits)
  · have whole : allFunctions [file, other] =
        kept.map (fun found => (file, found)) ++ moved.map fun found => (file, found) := by
      simp [allFunctions, functions, none.2]
    have parted :
        allFunctions [file.holding keptTraits kept hasMain,
            other.holding movedTraits moved hasMain'] =
          kept.map (fun found => (file.holding keptTraits kept hasMain, found)) ++
            moved.map fun found => (other.holding movedTraits moved hasMain', found) := by
      simp [allFunctions, FileFacts.holding]
    rw [whole, parted]
    refine List.rel_append ?_ ?_
    · rw [List.forall₂_map_left_iff, List.forall₂_map_right_iff, List.forall₂_same]
      exact fun found _ => ⟨rfl, sameFunction_of_moved fun _ _ _ _ => rfl⟩
    · rw [List.forall₂_map_left_iff, List.forall₂_map_right_iff, List.forall₂_same]
      exact fun found member => ⟨(sameFunctions found member).1,
        sameFunction_of_moved (sameFunctions found member).2⟩

/-- Where `main` stays in its file, it does so in both lists. -/
theorem samePrograms_holding (file other : FileFacts) (keptTraits movedTraits : List TraitImpl)
    (kept moved : List FunctionFacts) :
    SamePrograms [file, other]
      [file.holding keptTraits kept file.hasMain, other.holding movedTraits moved other.hasMain] :=
  forall₂_filter (.cons ⟨rfl, fun _ => rfl⟩ (.cons ⟨rfl, fun _ => rfl⟩ .nil))

end Moved

def factsIn (path space text : String) : FileFacts :=
  .collect path space ((parseFile text).toOption.getD (.node .tokens []))

def smtpFacts : FileFacts :=
  factsIn "src/lib.rs" "crate" ("use std::sync::Arc;\n#[singleton(factory = Smtp::create)]\n" ++
    "struct Smtp;\nimpl Mailer for Smtp \x7b\x7d\n" ++
    "impl Smtp \x7b fn create(config: Arc<Config>) -> Smtp \x7b Smtp \x7d \x7d\n")

def partsFacts : FileFacts :=
  factsIn "src/parts.rs" "crate::parts"
    ("use std::sync::Arc;\nuse crate::\x7bConfig, Mailer, Smtp\x7d;\n")

def movedFacts : List FileFacts :=
  [smtpFacts.holding [] [] smtpFacts.hasMain,
    partsFacts.holding smtpFacts.traitImpls smtpFacts.functions partsFacts.hasMain]

theorem redistributed_smtp : Redistributed [smtpFacts, partsFacts] movedFacts := by
  have checks :
      (partsFacts.traitImpls.isEmpty && partsFacts.functions.isEmpty) = true ∧
      (∀ found ∈ smtpFacts.traitImpls,
        Index.implEntry (knownSpaces [smtpFacts, partsFacts]) smtpFacts found =
          Index.implEntry (knownSpaces [smtpFacts, partsFacts]) partsFacts found) ∧
      ∀ found ∈ smtpFacts.functions,
        Index.functionPath (knownSpaces [smtpFacts, partsFacts]) smtpFacts found =
            Index.functionPath (knownSpaces [smtpFacts, partsFacts]) partsFacts found ∧
          ∀ input ∈ found.inputs,
            SamePaths
              (resolvePath (knownSpaces [smtpFacts, partsFacts]) (smtpFacts.scope found.scope))
              (resolvePath (knownSpaces [smtpFacts, partsFacts]) (partsFacts.scope found.scope))
              input.2 := by
    decide +kernel
  obtain ⟨none, traits, functions⟩ := checks
  rw [Bool.and_eq_true, List.isEmpty_iff, List.isEmpty_iff] at none
  exact redistributed_holding smtpFacts partsFacts smtpFacts.hasMain partsFacts.hasMain
    (List.nil_append _).symm (List.nil_append _).symm none traits functions

theorem analyze_redistributed_smtp :
    (analyze .default [smtpFacts, partsFacts]).modules = (analyze .default movedFacts).modules ∧
    (analyze .default movedFacts).services.map (fun service =>
        (service.implementation, service.interfaces, service.factory)) =
      [(.of "crate" "Smtp", [.of "crate" "Mailer"],
        some ⟨"crate::Smtp::create",
          [.shared "config" "crate :: Config" (.of "crate" "Config")]⟩)] := by
  obtain ⟨services, modules, -⟩ := analyze_redistributed .default redistributed_smtp
  refine ⟨modules (samePrograms_holding ..), ?_⟩
  rw [← services]
  decide +kernel

def programFacts : FileFacts :=
  factsIn "src/main.rs" "crate"
    "fn run() \x7b services.add_module(App); \x7d\nfn main() \x7b\x7d\n"

def libraryFacts : FileFacts :=
  factsIn "src/lib.rs" "crate" ""

/-- Without its `main` the program makes up no module. -/
theorem main_elsewhere :
    let settings : Settings := { Settings.default with autoGenerateModule := true }
    let moved := [programFacts.holding [] (programFacts.functions.take 1) false,
      libraryFacts.holding [] (programFacts.functions.drop 1) true]
    Redistributed [programFacts, libraryFacts] moved ∧
    (programFacts.functions.drop 1).map (·.name) = ["main"] ∧
    (analyze settings [programFacts, libraryFacts]).modules.map (·.type) =
      [.of "crate" "ProgramModule"] ∧
    (analyze settings moved).modules = [] := by
  have checks :
      (programFacts.traitImpls.isEmpty && libraryFacts.traitImpls.isEmpty &&
        libraryFacts.functions.isEmpty) = true ∧
      (∀ found ∈ programFacts.functions.drop 1,
        Index.functionPath (knownSpaces [programFacts, libraryFacts]) programFacts found =
            Index.functionPath (knownSpaces [programFacts, libraryFacts]) libraryFacts found ∧
          found.inputs.isEmpty = true) ∧
      (programFacts.functions.drop 1).map (·.name) = ["main"] ∧
      (analyze { Settings.default with autoGenerateModule := true }
          [programFacts, libraryFacts]).modules.map (·.type) = [.of "crate" "ProgramModule"] ∧
      (analyze { Settings.default with autoGenerateModule := true }
        [programFacts.holding [] (programFacts.functions.take 1) false,
          libraryFacts.holding [] (programFacts.functions.drop 1) true]).modules.isEmpty =
        true := by
    decide +kernel
  obtain ⟨empty, functions, name, whole, parted⟩ := checks
  simp only [Bool.and_eq_true, List.isEmpty_iff] at empty functions parted
  obtain ⟨⟨traits, traits'⟩, functions'⟩ := empty
  have redistributed := redistributed_holding programFacts libraryFacts false true
    (traits.trans (List.nil_append []).symm) (List.take_append_drop 1 _).symm
    ⟨traits', functions'⟩
    (fun _ member => absurd member List.not_mem_nil) fun found member =>
      ⟨(functions found member).1, fun input given => by
        rw [(functions found member).2] at given
        cases given⟩
  exact ⟨redistributed, name, whole, parted⟩

end Wiring.Source
