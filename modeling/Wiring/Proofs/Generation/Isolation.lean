import Mathlib.Data.Option.Basic
import Wiring.Proofs.Generation.Passes
import Wiring.Proofs.Plan.DependencyGraph
import Wiring.Proofs.Plan.Resolution

/-!
# Units of one module among others

A pass is one block after the other, a block for each module, and the block of a module is the same
in all discoveries that agree in what the module is, in the services that concern it, and in how the
modules that it refers to are constructed.  See `Generator.generate_block_of_agree`.
-/

set_option autoImplicit false

namespace Wiring.Generation

open Wiring.Plan
open Wiring.Source

/-! ## Blocks -/

/-- What a pass gives for one of its modules. -/
structure Block where
  files : List GeneratedFile
  /-- The warnings about its references to modules outside the compilation. -/
  warnings : List Diagnostic
  /-- What was wrong with the module. -/
  problems : List Diagnostic
deriving DecidableEq, Repr

def outsideWarnings (graph : DependencyGraph) (module : ModuleDescriptor) : List Diagnostic :=
  (module.dependencyIds.filter fun id => !graph.contains id).map (externalWarning module)

def PassOutput.ofBlocks (found : Discovery) (modules : List ModuleDescriptor)
    (block : ModuleDescriptor → Block) : PassOutput :=
  ⟨modules.flatMap fun module => (block module).files,
    found.diagnostics ++ (modules.flatMap fun module => (block module).warnings) ++
      modules.flatMap fun module => (block module).problems,
    modules.map (·.id)⟩

/-- What a generator gives for a module of a discovery, after the modules in front of it. -/
def Generator.block (generator : Generator) (found : Discovery) (module : ModuleDescriptor) :
    Block :=
  let modules := (consolidate found.modules).modules
  let units := (moduleUnits ⟨modules⟩ found.services (passSettings generator.settings found) module
    (generator.cacheBehind found (modules.takeWhile (· != module)))).1
  ⟨units.files, outsideWarnings ⟨modules⟩ module, units.diagnostics⟩

theorem externalWarnings_eq (graph : DependencyGraph) :
    externalWarnings graph = graph.modules.flatMap (outsideWarnings graph) := by
  rw [externalWarnings, DependencyGraph.externalReferences, List.map_flatMap]
  simp only [List.map_map]
  rfl

theorem allUnits_eq_map (graph : DependencyGraph) (services : List ServiceDescriptor)
    (settings : Settings) {modules : List ModuleDescriptor} (distinct : modules.Nodup)
    (cache : Cache) :
    (allUnits graph services settings modules cache).1 =
      modules.map fun module =>
        (moduleUnits graph services settings module
          (allUnits graph services settings (modules.takeWhile (· != module)) cache).2).1 := by
  induction modules generalizing cache with
  | nil => rfl
  | cons first rest ih =>
      obtain ⟨fresh, restDistinct⟩ := List.nodup_cons.mp distinct
      have none : (first :: rest).takeWhile (· != first) = [] := by simp
      -- The modules are distinct, so a later one meets the cache that `first` has left.
      have later : ∀ module ∈ rest, (first :: rest).takeWhile (· != module) =
          first :: rest.takeWhile (· != module) := by
        intro module member
        have apart : first ≠ module := by
          rintro rfl
          exact fresh member
        simp [apart]
      rw [List.map_cons, none, allUnits]
      refine congrArg₂ List.cons rfl ((ih restDistinct _).trans ?_)
      apply List.map_congr_left
      intro module member
      rw [later module member]
      rfl

theorem distinct_consolidate (entries : List Entry) : (consolidate entries).modules.Nodup :=
  (nodup_consolidate entries).of_map _

theorem eq_takeWhile_append {modules : List ModuleDescriptor} {module : ModuleDescriptor}
    (member : module ∈ modules) :
    ∃ back, modules = modules.takeWhile (· != module) ++ module :: back := by
  obtain ⟨front, back, rfl, absent⟩ := List.eq_append_cons_of_mem member
  have others : ∀ other ∈ front, (other != module) = true := by
    intro other listed
    rw [bne_iff_ne]
    rintro rfl
    exact absent listed
  refine ⟨back, ?_⟩
  rw [List.takeWhile_append_of_pos others, List.takeWhile_cons_of_neg (by simp), List.append_nil]

theorem moduleUnits_of_fresh {graph : DependencyGraph} {services : List ServiceDescriptor}
    {settings : Settings} {module : ModuleDescriptor} {cache : Cache} {inputs : List UnitsInput}
    (tracks : cache.Tracks inputs)
    (fresh : isAmong inputs (.of module services settings) = false) :
    (moduleUnits graph services settings module cache).1 =
      plainUnits graph services settings module := by
  unfold moduleUnits plainUnits
  rw [tracks.units_made fresh, apply_ite Prod.fst]

theorem Generator.generate_eq_ofBlocks {generator : Generator}
    (going : generator.isCancelled = false) (found : Discovery) :
    (generator.generate found).1 =
      .ok (.ofBlocks found (consolidate found.modules).modules (generator.block found)) := by
  rw [generate_going going]
  simp only [runPass, PassOutput.ofUnits, PassOutput.ofBlocks, externalWarnings_eq,
    allUnits_eq_map _ _ _ (distinct_consolidate found.modules), List.flatMap_map, block]
  rfl

/-! ## What a block depends on -/

/-- Modules that take as many arguments and have properties of the same names. -/
structure SameShape (left right : ModuleDescriptor) : Prop where
  constructor : left.constructor.length = right.constructor.length
  properties : ∀ name, (∃ property ∈ left.properties, property.name = name) ↔
    ∃ property ∈ right.properties, property.name = name

/-- Discoveries that agree in what the units of a module depend on. -/
structure Agree (module : ModuleDescriptor) (settings : Settings) (left right : Discovery) :
    Prop where
  leftSettings : ∀ entry ∈ left.modules, entry.2 = settings
  rightSettings : ∀ entry ∈ right.modules, entry.2 = settings
  inLeft : module ∈ (consolidate left.modules).modules
  inRight : module ∈ (consolidate right.modules).modules
  services : left.services.filter (concerns module) = right.services.filter (concerns module)
  /-- A module that it refers to is in both compilations or in none. -/
  dependencies : ∀ id ∈ module.dependencyIds,
    Option.Rel SameShape
      ((DependencyGraph.mk (consolidate left.modules).modules).get? id)
      ((DependencyGraph.mk (consolidate right.modules).modules).get? id)

section Shapes

variable {left right : ModuleDescriptor}

theorem SameShape.argumentProblems (shape : SameShape left right) (same : left.id = right.id)
    (module : ModuleDescriptor) (reference : ModuleReference) :
    argumentProblems module reference left = argumentProblems module reference right := by
  have parameterized : left.isParameterized = right.isParameterized := by
    rw [ModuleDescriptor.isParameterized, ModuleDescriptor.isParameterized, Bool.eq_iff_iff]
    simp only [Bool.not_eq_true', List.isEmpty_eq_false_iff, ← List.length_pos_iff,
      shape.constructor]
  simp only [Generation.argumentProblems, same, shape.constructor, parameterized]

theorem SameShape.propertyProblems (shape : SameShape left right) (same : left.id = right.id)
    (module : ModuleDescriptor) (reference : ModuleReference) :
    propertyProblems module reference left = propertyProblems module reference right := by
  have known : ∀ name, (left.properties.any fun property => property.name == name) =
      right.properties.any fun property => property.name == name := by
    intro name
    rw [Bool.eq_iff_iff]
    simpa only [List.any_eq_true, beq_iff_eq] using shape.properties name
  simp only [Generation.propertyProblems, same, known]

end Shapes

section Graphs

variable {left right : DependencyGraph} {id : String}

theorem contains_eq (alike : Option.Rel SameShape (left.get? id) (right.get? id)) :
    left.contains id = right.contains id := by
  rw [DependencyGraph.contains, DependencyGraph.contains]
  generalize left.get? id = leftTarget at alike ⊢
  generalize right.get? id = rightTarget at alike ⊢
  cases alike <;> rfl

theorem problemsOf_eq {module : ModuleDescriptor} {reference : ModuleReference}
    (alike : Option.Rel SameShape (left.get? reference.module.fullName)
      (right.get? reference.module.fullName)) :
    problemsOf left module reference = problemsOf right module reference := by
  unfold problemsOf
  generalize leftFound : left.get? reference.module.fullName = leftTarget at alike
  generalize rightFound : right.get? reference.module.fullName = rightTarget at alike
  cases alike with
  | none => rfl
  | some shape =>
      have same := (DependencyGraph.id_of_get? leftFound).trans
        (DependencyGraph.id_of_get? rightFound).symm
      simp only [shape.argumentProblems same, shape.propertyProblems same]

variable {module : ModuleDescriptor}
  (alike : ∀ id ∈ module.dependencyIds, Option.Rel SameShape (left.get? id) (right.get? id))

include alike

theorem referenceProblems_eq : referenceProblems left module = referenceProblems right module := by
  rw [referenceProblems, referenceProblems]
  apply List.flatMap_congr
  intro reference member
  apply problemsOf_eq
  apply alike
  exact List.mem_append_left _ (List.mem_map_of_mem member)

theorem outsideWarnings_eq : outsideWarnings left module = outsideWarnings right module := by
  rw [outsideWarnings, outsideWarnings]
  congr 1
  apply List.filter_congr
  intro id member
  rw [contains_eq (alike id member)]

end Graphs

/-! ## Blocks of discoveries that agree -/

theorem passSettings_eq {own settings : Settings} {found : Discovery} {module : ModuleDescriptor}
    (uniform : ∀ entry ∈ found.modules, entry.2 = settings)
    (member : module ∈ (consolidate found.modules).modules) :
    passSettings own found = settings := by
  cases entries : found.modules with
  | nil =>
      rw [entries] at member
      simp [consolidate, keptModules] at member
  | cons first rest =>
      have own : first.2 = settings := by
        apply uniform
        rw [entries]
        exact List.mem_cons_self ..
      simpa [passSettings, entries, consolidate] using own

section Agreement

variable {module : ModuleDescriptor} {settings : Settings} {left right : Discovery}

theorem Agree.plainUnits (agree : Agree module settings left right) :
    plainUnits ⟨(consolidate left.modules).modules⟩ left.services settings module =
      plainUnits ⟨(consolidate right.modules).modules⟩ right.services settings module := by
  have input : UnitsInput.of module left.services settings =
      UnitsInput.of module right.services settings := by
    simp only [UnitsInput.of, appliesTo_eq_concerns, agree.services]
  simp only [Generation.plainUnits, referenceProblems_eq agree.dependencies, input]

end Agreement

/-- Blocks that are the same, with paths compared by their components. -/
structure Block.Alike (left right : Block) : Prop where
  files : left.files = right.files
  warnings : left.warnings = right.warnings
  problems : List.Forall₂ DiagnosticsAlike left.problems right.problems

namespace Generator

def IsMade (generator : Generator) : Prop :=
  ∃ settings steps, (ofSettings settings).after steps = generator

theorem IsMade.tracks {generator : Generator} (made : generator.IsMade) :
    ∃ inputs, generator.cache.Tracks inputs := by
  obtain ⟨settings, steps, rfl⟩ := made
  exact ⟨_, tracks_after Cache.tracks_empty rfl steps⟩

section Plain

variable {generator : Generator} {settings : Settings} {found : Discovery}
  {module : ModuleDescriptor} (used : passSettings generator.settings found = settings)

include used

theorem block_alike_plainUnits {inputs : List UnitsInput}
    (tracks : generator.cache.Tracks inputs) :
    (generator.block found module).files =
        (plainUnits ⟨(consolidate found.modules).modules⟩ found.services settings module).files ∧
      (generator.block found module).problems.map Diagnostic.canonical =
        (plainUnits ⟨(consolidate found.modules).modules⟩ found.services settings
          module).diagnostics.map Diagnostic.canonical := by
  have behind := tracks_cacheBehind tracks found
    ((consolidate found.modules).modules.takeWhile (· != module))
  have units := (tracks_moduleUnits ⟨(consolidate found.modules).modules⟩ found.services
    (passSettings generator.settings found) behind module).1
  rw [used] at units
  have files := congrArg UnitsOutput.files units
  have problems := congrArg UnitsOutput.diagnostics units
  rw [block, used]
  exact ⟨files, problems⟩

theorem block_of_empty (empty : generator.cache = .empty)
    (member : module ∈ (consolidate found.modules).modules) :
    generator.block found module =
      ⟨(plainUnits ⟨(consolidate found.modules).modules⟩ found.services settings module).files,
        outsideWarnings ⟨(consolidate found.modules).modules⟩ module,
        (plainUnits ⟨(consolidate found.modules).modules⟩ found.services settings
          module).diagnostics⟩ := by
  have tracks : generator.cache.Tracks [] := by
    rw [empty]
    exact Cache.tracks_empty
  obtain ⟨back, split⟩ := eq_takeWhile_append member
  -- Inputs of different modules differ, so the modules in front have not filled in this one.
  have distinct := nodup_consolidate found.modules
  rw [split] at distinct
  have fresh : isAmong (lookedUp ⟨(consolidate found.modules).modules⟩ found.services
      (passSettings generator.settings found)
      ((consolidate found.modules).modules.takeWhile (· != module)))
      (.of module found.services (passSettings generator.settings found)) = false :=
    isAmong_lookedUp distinct
  have behind := tracks_cacheBehind tracks found
    ((consolidate found.modules).modules.takeWhile (· != module))
  rw [List.nil_append] at behind
  rw [block, moduleUnits_of_fresh behind fresh, used]

end Plain

/-- A pass over a discovery is the blocks of its modules. Whatever two generators have made before,
the block of a module is the same for discoveries that agree in what its units depend on, but for
the spelling of paths that an earlier pass has left in the cache. -/
theorem generate_block_of_agree {first second : Generator} (firstMade : first.IsMade)
    (secondMade : second.IsMade) (firstGoing : first.isCancelled = false)
    (secondGoing : second.isCancelled = false) {module : ModuleDescriptor} {settings : Settings}
    {left right : Discovery} (agree : Agree module settings left right) :
    (first.generate left).1 =
        .ok (.ofBlocks left (consolidate left.modules).modules (first.block left)) ∧
      (second.generate right).1 =
        .ok (.ofBlocks right (consolidate right.modules).modules (second.block right)) ∧
      (first.block left module).Alike (second.block right module) ∧
      (first.cache = .empty → second.cache = .empty →
        first.block left module = second.block right module) := by
  obtain ⟨firstInputs, firstTracks⟩ := firstMade.tracks
  obtain ⟨secondInputs, secondTracks⟩ := secondMade.tracks
  have firstUsed : passSettings first.settings left = settings :=
    passSettings_eq agree.leftSettings agree.inLeft
  have secondUsed : passSettings second.settings right = settings :=
    passSettings_eq agree.rightSettings agree.inRight
  obtain ⟨firstFiles, firstProblems⟩ := block_alike_plainUnits firstUsed firstTracks
  obtain ⟨secondFiles, secondProblems⟩ := block_alike_plainUnits secondUsed secondTracks
  have warnings := outsideWarnings_eq agree.dependencies
  refine ⟨generate_eq_ofBlocks firstGoing left, generate_eq_ofBlocks secondGoing right,
    ⟨?_, warnings, ?_⟩, ?_⟩
  · rw [firstFiles, secondFiles, agree.plainUnits]
  · rw [forall₂_diagnosticsAlike_iff, firstProblems, secondProblems, agree.plainUnits]
  · intro firstEmpty secondEmpty
    rw [block_of_empty firstUsed firstEmpty agree.inLeft,
      block_of_empty secondUsed secondEmpty agree.inRight, agree.plainUnits, warnings]

end Generator

def gateway : ModuleDescriptor :=
  { ModuleDescriptor.ofType (.of "crate" "Gateway") "src/lib.rs" with
    references := [
      ⟨.of "crate" "Http", ["8080"], [⟨"tls", "true"⟩]⟩, ⟨.of "other" "Remote", [], []⟩] }

def listener (parameter : Parameter) (properties : List String) : ModuleDescriptor :=
  { ModuleDescriptor.ofType (.of "crate" "Http") "src/http.rs" with
    constructor := [parameter]
    properties := properties.map fun name => ⟨name, "bool"⟩ }

def ticker (name : String) (realm : Option TypeName) : ServiceDescriptor :=
  { ServiceDescriptor.ofImplementation (.of "crate" name) with
    registrations := [{ RegistrationModel.ofLifetime .scoped with realm := realm }] }

def discovered (modules : List ModuleDescriptor) (services : List ServiceDescriptor) : Discovery :=
  ⟨modules.map fun module => (module, .default), services, [], 1⟩

def small : Discovery :=
  discovered [gateway, listener ⟨"port", "u16"⟩ ["tls", "keep"]] [ticker "Clock" none]

def crowded : Discovery :=
  discovered
    [listener ⟨"socket", "String"⟩ ["keep", "tls"], .ofType (.of "crate" "Other") "", gateway]
    [ticker "Watch" (some (.of "crate" "Other")), ticker "Clock" none]

theorem Generator.generate_block_of_agree_gateway :
    Agree gateway .default small crowded ∧
      (Generator.ofSettings .default).block small gateway =
        (Generator.ofSettings .default).block crowded gateway := by
  have made : (Generator.ofSettings .default).IsMade := ⟨.default, [], rfl⟩
  have agree : Agree gateway .default small crowded := by
    refine ⟨by decide, by decide, by decide, by decide, by decide, ?_⟩
    have ids : gateway.dependencyIds = ["crate::Http", "other::Remote"] := by decide
    have smallHttp : (DependencyGraph.mk (consolidate small.modules).modules).get? "crate::Http" =
        some (listener ⟨"port", "u16"⟩ ["tls", "keep"]) := by decide
    have crowdedHttp :
        (DependencyGraph.mk (consolidate crowded.modules).modules).get? "crate::Http" =
          some (listener ⟨"socket", "String"⟩ ["keep", "tls"]) := by decide
    have smallRemote :
        (DependencyGraph.mk (consolidate small.modules).modules).get? "other::Remote" = none := by
      decide
    have crowdedRemote :
        (DependencyGraph.mk (consolidate crowded.modules).modules).get? "other::Remote" = none := by
      decide
    have shape : SameShape (listener ⟨"port", "u16"⟩ ["tls", "keep"])
        (listener ⟨"socket", "String"⟩ ["keep", "tls"]) := by
      refine ⟨rfl, fun name => ?_⟩
      simp [listener, or_comm]
    rw [ids, List.forall_mem_cons, List.forall_mem_singleton, smallHttp, crowdedHttp, smallRemote,
      crowdedRemote]
    exact ⟨.some shape, .none⟩
  obtain ⟨-, -, -, same⟩ := Generator.generate_block_of_agree made made rfl rfl agree
  exact ⟨agree, same rfl rfl⟩

end Wiring.Generation
