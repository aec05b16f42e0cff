import Wiring.Proofs.Generated.Blame
import Wiring.Proofs.Generation.Isolation
import Wiring.Proofs.Generation.Relevance

/-!
# Every module is written or reported

A pass gives the units of a module complete and without a word, or no unit of it and errors at its
declaration.  See `Generator.generate_renders`.
-/

set_option autoImplicit false

namespace Wiring.Generated

open Wiring.Grammar

/-! ## Methods of a facade -/

/-- The body of a method: the first braces behind its name. -/
def methodBody? (name : String) (methods : List SyntaxTree) : Option (List SyntaxTree) :=
  (methods.dropWhile fun tree => tree.text? != some name).findSome? fun
    | .group .brace body _ _ => some body
    | _ => none

def delegation : List SyntaxTree :=
  code "services . apply_all" ++
    [inParentheses (code ("Self :: " ++ registrationsFunction) ++ [inParentheses []])] ++ code ";"

theorem methodBody?_append {name : String} {front : List SyntaxTree}
    (others : (front.all fun tree => tree.text? != some name) = true) (back : List SyntaxTree) :
    methodBody? name (front ++ back) = methodBody? name back := by
  rw [methodBody?, List.dropWhile_append_of_pos (List.all_eq_true.mp others)]
  rfl

theorem methodBody?_referencesCode {name method : String}
    (others : ((function (code ("fn " ++ method)) [] (code "->" ++ listType (runtime "ModuleRef"))
      []).all fun tree => tree.text? != some name) = true)
    (values : List (List SyntaxTree)) (back : List SyntaxTree) :
    methodBody? name (Facade.referencesCode method values ++ back) = methodBody? name back := by
  unfold Facade.referencesCode
  split
  · rfl
  · exact methodBody?_append (by simpa [function, inParentheses, inBraces, SyntaxTree.text?]
      using others) back

theorem methodBody?_applyCode (hasRegistrations : Bool) (back : List SyntaxTree) :
    methodBody? "apply_services" (Facade.applyCode hasRegistrations ++ back) =
      some (if hasRegistrations then delegation else []) := by
  cases hasRegistrations <;> rfl

/-- A facade hands operations to the container exactly if it was written for a module that has a
registrations unit. -/
theorem methodBody?_methodsCode (facade : Facade) :
    methodBody? "apply_services" facade.methodsCode =
      some (if facade.hasRegistrations then delegation else []) := by
  simp only [Facade.methodsCode, List.append_assoc]
  rw [methodBody?_append rfl, methodBody?_referencesCode rfl, methodBody?_referencesCode rfl,
    methodBody?_applyCode]

end Wiring.Generated

namespace Wiring.Generation

open Wiring.Generated
open Wiring.Plan
open Wiring.Source

/-! ## Written or reported -/

/-- An error at the declaration of a module. -/
structure ErrorAt (module : ModuleDescriptor) (problem : Diagnostic) : Prop where
  severity : problem.severity = .error
  path : Files.samePath problem.path module.sourceFile = true
  line : problem.line = module.line

/-- What a pass gives for a module: the facade alone if nothing is registered for it, the facade and
the registrations it delegates to if something is, or no unit but errors at its declaration. -/
inductive Renders (module : ModuleDescriptor) (resolved : ResolvedModule) :
    List GeneratedFile → List Diagnostic → Prop where
  | plain (facade : Facade) (made : facadeOf module false = .ok facade)
      (nothing : resolved.registrations = [])
      (idle : methodBody? "apply_services" facade.methodsCode = some []) :
      Renders module resolved [.ofCode module.type.facadeFile facade.code] []
  | registering (facade : Facade) (unit : RegistrationsUnit)
      (made : facadeOf module true = .ok facade)
      (something : resolved.registrations ≠ [])
      (registers : registrationsUnitOf module resolved resolved.operations = .ok unit)
      (delegates : methodBody? "apply_services" facade.methodsCode = some delegation) :
      Renders module resolved
        [.ofCode module.type.facadeFile facade.code,
          .ofCode module.type.registrationsFile unit.code] []
  | reported (problems : List Diagnostic) (some : problems ≠ [])
      (errors : ∀ problem ∈ problems, ErrorAt module problem) :
      Renders module resolved [] problems

theorem samePath_iff (left right : String) :
    Files.samePath left right = true ↔ Files.canonical left = Files.canonical right :=
  (Files.canonical_eq_iff left right).symm

/-- The spelling of paths in diagnostics does not matter. -/
theorem Renders.respell {module : ModuleDescriptor} {resolved : ResolvedModule}
    {files : List GeneratedFile} {problems respelled : List Diagnostic}
    (renders : Renders module resolved files problems)
    (same : respelled.map Diagnostic.canonical = problems.map Diagnostic.canonical) :
    Renders module resolved files respelled := by
  cases renders with
  | plain facade made nothing idle =>
      rw [List.map_nil, List.map_eq_nil_iff] at same
      rw [same]
      exact .plain facade made nothing idle
  | registering facade unit made something registers delegates =>
      rw [List.map_nil, List.map_eq_nil_iff] at same
      rw [same]
      exact .registering facade unit made something registers delegates
  | reported problems some errors =>
      refine .reported respelled ?_ ?_
      · rintro rfl
        exact some (List.map_eq_nil_iff.mp same.symm)
      · intro problem member
        have listed : problem.canonical ∈ problems.map Diagnostic.canonical := by
          rw [← same]
          exact List.mem_map_of_mem member
        obtain ⟨original, among, alike⟩ := List.mem_map.mp listed
        obtain ⟨severity, path, line⟩ := errors original among
        obtain ⟨sameSeverity, samePath, sameLine, -⟩ := (diagnosticsAlike_iff ..).mpr alike
        rw [samePath_iff] at path samePath
        exact ⟨sameSeverity ▸ severity, (samePath_iff ..).mpr (samePath ▸ path), sameLine ▸ line⟩

section Units

variable (module : ModuleDescriptor)

theorem samePath_self (path : String) : Files.samePath path path = true :=
  (samePath_iff path path).mpr rfl

theorem errorAt_problemAt (message : String) : ErrorAt module (problemAt module message) :=
  ⟨rfl, samePath_self _, rfl⟩

theorem errorAt_of_mem_argumentProblems {reference : ModuleReference} {target : ModuleDescriptor}
    {problem : Diagnostic} (member : problem ∈ argumentProblems module reference target) :
    ErrorAt module problem := by
  dsimp only [argumentProblems] at member
  split at member
  · rw [List.mem_singleton.mp member]
    exact errorAt_problemAt module _
  · split at member
    · rw [List.mem_singleton.mp member]
      exact errorAt_problemAt module _
    · exact absurd member List.not_mem_nil

theorem errorAt_of_mem_referenceProblems {graph : DependencyGraph} {problem : Diagnostic}
    (member : problem ∈ referenceProblems graph module) : ErrorAt module problem := by
  simp only [referenceProblems, List.mem_flatMap] at member
  obtain ⟨reference, -, member⟩ := member
  unfold problemsOf at member
  split at member
  case h_2 => exact absurd member List.not_mem_nil
  case h_1 target _ =>
    rcases List.mem_append.mp member with ofArguments | ofProperties
    · exact errorAt_of_mem_argumentProblems module ofArguments
    · obtain ⟨override, -, rfl⟩ := List.mem_map.mp ofProperties
      exact errorAt_problemAt module _

theorem facadeOf_hasRegistrations {hasRegistrations : Bool} {facade : Facade}
    (made : facadeOf module hasRegistrations = .ok facade) :
    facade.hasRegistrations = hasRegistrations := by
  simp only [facadeOf, Outcome.bind_eq_ok_iff, Outcome.pure_eq_ok_iff] at made
  obtain ⟨type, -, declared, -, references, -, extras, -, marker, -, extension, -, rfl⟩ := made
  rfl

theorem renders_unitFiles (resolved : ResolvedModule) {files : List GeneratedFile}
    (made : unitFiles module resolved = .ok files) : Renders module resolved files [] := by
  simp only [unitFiles, facadeFile, registrationsFile, Outcome.bind_eq_ok_iff,
    Outcome.map_eq_ok_iff] at made
  obtain ⟨-, ⟨facade, faced, rfl⟩, made⟩ := made
  have body := methodBody?_methodsCode facade
  rw [facadeOf_hasRegistrations module faced] at body
  cases nothing : resolved.isEmpty with
  | true =>
      rw [nothing] at made faced body
      rw [if_pos rfl, Outcome.pure_eq_ok_iff] at made
      subst made
      exact .plain facade faced (List.isEmpty_iff.mp nothing) body
  | false =>
      rw [nothing] at made faced body
      simp only [Bool.false_eq_true, if_false, Outcome.bind_eq_ok_iff, Outcome.map_eq_ok_iff,
        Outcome.pure_eq_ok_iff] at made
      obtain ⟨-, ⟨unit, registers, rfl⟩, rfl⟩ := made
      exact .registering facade unit faced (List.isEmpty_eq_false_iff.mp nothing) registers body

theorem renders_generateUnits (services : List ServiceDescriptor) (settings : Settings) :
    Renders module (resolveModule module services settings.defaultVerb)
      (generateUnits (.of module services settings)).files
      (generateUnits (.of module services settings)).diagnostics := by
  have resolved : (UnitsInput.of module services settings).resolved =
      resolveModule module services settings.defaultVerb := resolveModule_kept ..
  unfold generateUnits
  rw [resolved]
  cases made : unitFiles (UnitsInput.of module services settings).module
      (resolveModule module services settings.defaultVerb) with
  | ok files => exact renders_unitFiles module _ made
  | error failure =>
      obtain ⟨message, rfl⟩ := unitFiles_blames module _ failure made
      refine .reported _ (List.cons_ne_nil _ _) ?_
      intro problem member
      rw [List.mem_singleton.mp member]
      exact errorAt_problemAt module message

theorem renders_plainUnits (graph : DependencyGraph) (services : List ServiceDescriptor)
    (settings : Settings) :
    Renders module (resolveModule module services settings.defaultVerb)
      (plainUnits graph services settings module).files
      (plainUnits graph services settings module).diagnostics := by
  unfold plainUnits
  cases quiet : (referenceProblems graph module).isEmpty with
  | true => exact renders_generateUnits module services settings
  | false =>
      refine .reported _ (List.isEmpty_eq_false_iff.mp quiet) ?_
      intro problem member
      exact errorAt_of_mem_referenceProblems module member

end Units

/-! ## One pass -/

def edgesOutside (modules : List ModuleDescriptor) : List (ModuleDescriptor × String) :=
  modules.flatMap fun module =>
    (module.dependencyIds.filter fun id => decide (id ∉ modules.map (·.id))).map fun id =>
      (module, id)

/-- A warning at the declaration of a module about one of its edges. -/
structure WarnsOf (edge : ModuleDescriptor × String) (warning : Diagnostic) : Prop where
  severity : warning.severity = .warning
  path : warning.path = edge.1.sourceFile
  line : warning.line = edge.1.line
  message : warning.message = "module " ++ edge.1.id ++ " references " ++ edge.2 ++
    ", which is not part of this compilation"

theorem externalReferences_eq (modules : List ModuleDescriptor) :
    DependencyGraph.externalReferences ⟨modules⟩ = edgesOutside modules := by
  have known : ∀ id, (!DependencyGraph.contains ⟨modules⟩ id) =
      decide (id ∉ modules.map (·.id)) := by
    intro id
    rw [DependencyGraph.contains, Option.not_isSome, Bool.eq_iff_iff, Option.isNone_iff_eq_none,
      DependencyGraph.get?_eq_none_iff, decide_eq_true_iff]
  simp only [DependencyGraph.externalReferences, edgesOutside, known]

theorem forall₂_warnsOf (modules : List ModuleDescriptor) :
    List.Forall₂ WarnsOf (edgesOutside modules) (externalWarnings ⟨modules⟩) := by
  rw [externalWarnings, externalReferences_eq, List.forall₂_map_right_iff, List.forall₂_same]
  intro edge _
  exact ⟨rfl, rfl, rfl, rfl⟩

/-- What can be said of a pass over a discovery that gives some output. -/
structure Accounts (settings : Settings) (found : Discovery) (output : PassOutput) : Prop where
  modules : output.modules = (consolidate found.modules).modules.map (·.id)
  /-- The files are a block for each module, and the diagnostics are those of the discovery, one
  warning for each edge to what is no module of the compilation, and those of the blocks. -/
  blocks : ∃ (blocks : List (List GeneratedFile × List Diagnostic)) (warnings : List Diagnostic),
    List.Forall₂ (fun module block =>
      Renders module (resolveModule module found.services settings.defaultVerb) block.1 block.2)
      (consolidate found.modules).modules blocks ∧
    List.Forall₂ WarnsOf (edgesOutside (consolidate found.modules).modules) warnings ∧
    output.files = blocks.flatMap (·.1) ∧
    output.diagnostics = found.diagnostics ++ warnings ++ blocks.flatMap (·.2)

namespace Generator

theorem eq_ofBlocks_of_generate {generator : Generator} {found : Discovery} {output : PassOutput}
    (success : (generator.generate found).1 = .ok output) :
    output = .ofBlocks found (consolidate found.modules).modules (generator.block found) := by
  have going : generator.isCancelled = false := by
    cases stopped : generator.isCancelled with
    | false => rfl
    | true =>
        rw [generate_cancelled stopped] at success
        cases success
  rw [generate_eq_ofBlocks going] at success
  exact (Except.ok.inj success).symm

theorem IsMade.block_alike {generator : Generator} (made : generator.IsMade) (found : Discovery)
    (module : ModuleDescriptor) :
    (generator.block found module).files =
        (plainUnits ⟨(consolidate found.modules).modules⟩ found.services
          (passSettings generator.settings found) module).files ∧
      (generator.block found module).problems.map Diagnostic.canonical =
        (plainUnits ⟨(consolidate found.modules).modules⟩ found.services
          (passSettings generator.settings found) module).diagnostics.map Diagnostic.canonical := by
  obtain ⟨inputs, tracks⟩ := made.tracks
  exact block_alike_plainUnits rfl tracks

theorem renders_block {generator : Generator} (made : generator.IsMade) (found : Discovery)
    (module : ModuleDescriptor) :
    Renders module
      (resolveModule module found.services (passSettings generator.settings found).defaultVerb)
      (generator.block found module).files (generator.block found module).problems := by
  obtain ⟨files, problems⟩ := made.block_alike found module
  rw [files]
  exact (renders_plainUnits module _ _ _).respell problems

/-- Whatever a generator has made before, a pass writes each module of the compilation completely
and without a diagnostic, or writes nothing of it and reports errors at its declaration. -/
theorem generate_renders {generator : Generator} (made : generator.IsMade) {found : Discovery}
    {output : PassOutput} (success : (generator.generate found).1 = .ok output) :
    Accounts (passSettings generator.settings found) found output := by
  rw [eq_ofBlocks_of_generate success]
  refine ⟨rfl, (consolidate found.modules).modules.map fun module =>
    ((generator.block found module).files, (generator.block found module).problems),
    externalWarnings ⟨(consolidate found.modules).modules⟩, ?_, forall₂_warnsOf _, ?_, ?_⟩
  · rw [List.forall₂_map_right_iff, List.forall₂_same]
    intro module _
    exact renders_block made found module
  · rw [List.flatMap_map]
    rfl
  · rw [List.flatMap_map, externalWarnings_eq]
    rfl

def hasty : ModuleDescriptor :=
  { ModuleDescriptor.ofType (.of "crate" "Hasty") "src/hasty.rs" with
    line := 4
    references := [⟨.of "crate" "Http", [], []⟩] }

def uneven : Discovery :=
  discovered [gateway, listener ⟨"port", "u16"⟩ ["tls"], hasty]
    [ticker "Clock" (some gateway.type)]

theorem generate_renders_uneven :
    ∃ output, ((ofSettings .default).generate uneven).1 = .ok output ∧
      Accounts .default uneven output ∧
      output.files.map (·.name) = ["crate.Gateway.module.g.rs", "crate.Gateway.registrations.g.rs",
        "crate.Http.module.g.rs"] ∧
      output.diagnostics.map (fun diagnostic => (diagnostic.severity, diagnostic.line)) =
        [(.warning, 0), (.error, 4)] := by
  have made : (ofSettings .default).IsMade := ⟨.default, [], rfl⟩
  have success : ((ofSettings .default).generate uneven).1 =
      .ok (runPass .default uneven .empty).1 := rfl
  refine ⟨_, success, generate_renders made success, ?_, ?_⟩
  · decide +kernel
  · decide +kernel

end Generator

end Wiring.Generation
