import Wiring.Generation.Pass
import Wiring.Proofs.Generation.Cache
import Wiring.Proofs.Plan.Consolidation

/-!
# Passes of one generator

Whatever a generator has made before, a pass gives what a new generator gives, and the counters of
its cache say how many of the inputs so far were equal to one of an earlier pass.  See
`Generator.after_exact`.
-/

set_option autoImplicit false

namespace Wiring.Generation

open Wiring.Files
open Wiring.Plan
open Wiring.Source

/-! ## Equal results -/

/-- Diagnostics that are the same, with paths compared by their components. -/
structure DiagnosticsAlike (left right : Diagnostic) : Prop where
  severity : left.severity = right.severity
  path : samePath left.path right.path = true
  line : left.line = right.line
  message : left.message = right.message

/-- Results that are the same, with paths compared by their components. -/
structure PassOutput.Alike (left right : PassOutput) : Prop where
  files : left.files = right.files
  diagnostics : List.Forall₂ DiagnosticsAlike left.diagnostics right.diagnostics
  modules : left.modules = right.modules

def OutcomesAlike : Except Failure PassOutput → Except Failure PassOutput → Prop
  | .ok left, .ok right => left.Alike right
  | .error left, .error right => left = right
  | .ok _, .error _ => False
  | .error _, .ok _ => False

theorem diagnosticsAlike_iff (left right : Diagnostic) :
    DiagnosticsAlike left right ↔ left.canonical = right.canonical := by
  simp only [Diagnostic.canonical, Diagnostic.mk.injEq, canonical_eq_iff]
  constructor
  · rintro ⟨severity, path, line, message⟩
    exact ⟨severity, path, line, message⟩
  · rintro ⟨severity, path, line, message⟩
    exact ⟨severity, path, line, message⟩

theorem forall₂_diagnosticsAlike_iff (left right : List Diagnostic) :
    List.Forall₂ DiagnosticsAlike left right ↔
      left.map Diagnostic.canonical = right.map Diagnostic.canonical := by
  have relation : DiagnosticsAlike = fun left right => left.canonical = right.canonical := by
    funext left right
    exact propext (diagnosticsAlike_iff left right)
  rw [← List.forall₂_eq_eq_eq, List.forall₂_map_left_iff, List.forall₂_map_right_iff, relation]

theorem ofUnits_alike (found : Discovery) (modules : List ModuleDescriptor)
    {left right : List UnitsOutput}
    (same : left.map UnitsOutput.canonical = right.map UnitsOutput.canonical) :
    (PassOutput.ofUnits found modules left).Alike (.ofUnits found modules right) := by
  have files : ∀ outputs : List UnitsOutput, outputs.flatMap (·.files) =
      (outputs.map UnitsOutput.canonical).flatMap (·.files) := by
    intro outputs
    rw [List.flatMap_map]
    rfl
  have diagnostics : ∀ outputs : List UnitsOutput,
      (outputs.flatMap (·.diagnostics)).map Diagnostic.canonical =
        (outputs.map UnitsOutput.canonical).flatMap (·.diagnostics) := by
    intro outputs
    rw [List.flatMap_map, List.map_flatMap]
    rfl
  refine ⟨?_, ?_, rfl⟩
  · simp only [PassOutput.ofUnits]
    rw [files left, same, ← files right]
  · rw [forall₂_diagnosticsAlike_iff]
    simp only [PassOutput.ofUnits, List.map_append, diagnostics, same]

/-! ## One pass -/

section Pass

variable (graph : DependencyGraph) (services : List ServiceDescriptor) (settings : Settings)

def lookedUp (modules : List ModuleDescriptor) : List UnitsInput :=
  (modules.filter fun module => (referenceProblems graph module).isEmpty).map fun module =>
    .of module services settings

def plainUnits (module : ModuleDescriptor) : UnitsOutput :=
  if (referenceProblems graph module).isEmpty then generateUnits (.of module services settings)
  else ⟨[], referenceProblems graph module⟩

theorem lookedUp_append (first rest : List ModuleDescriptor) :
    lookedUp graph services settings (first ++ rest) =
      lookedUp graph services settings first ++ lookedUp graph services settings rest := by
  simp [lookedUp]

theorem allUnits_append (first rest : List ModuleDescriptor) (cache : Cache) :
    (allUnits graph services settings (first ++ rest) cache).2 =
      (allUnits graph services settings rest
        (allUnits graph services settings first cache).2).2 := by
  induction first generalizing cache with
  | nil => rfl
  | cons module first ih => exact ih _

variable {cache : Cache} {inputs : List UnitsInput}

theorem tracks_moduleUnits (tracks : cache.Tracks inputs) (module : ModuleDescriptor) :
    (moduleUnits graph services settings module cache).1.canonical =
        (plainUnits graph services settings module).canonical ∧
      (moduleUnits graph services settings module cache).2.Tracks
        (inputs ++ lookedUp graph services settings [module]) := by
  cases quiet : (referenceProblems graph module).isEmpty with
  | true =>
      obtain ⟨units, tracksAfter, -⟩ := tracks.units (.of module services settings)
      simp only [moduleUnits, plainUnits, lookedUp, quiet, List.filter_cons, List.filter_nil,
        if_true, List.map_cons, List.map_nil]
      exact ⟨units, tracksAfter⟩
  | false =>
      simp only [moduleUnits, plainUnits, lookedUp, quiet, List.filter_cons, List.filter_nil,
        Bool.false_eq_true, if_false, List.map_nil, List.append_nil]
      exact ⟨trivial, tracks⟩

/-- The units of modules that a cache gives are those that are made without one. -/
theorem tracks_allUnits (tracks : cache.Tracks inputs) (modules : List ModuleDescriptor) :
    (allUnits graph services settings modules cache).1.map UnitsOutput.canonical =
        (modules.map (plainUnits graph services settings)).map UnitsOutput.canonical ∧
      (allUnits graph services settings modules cache).2.Tracks
        (inputs ++ lookedUp graph services settings modules) := by
  induction modules generalizing cache inputs with
  | nil => exact ⟨rfl, by simpa [lookedUp, allUnits] using tracks⟩
  | cons module rest ih =>
      obtain ⟨units, tracksModule⟩ := tracks_moduleUnits graph services settings tracks module
      obtain ⟨restUnits, tracksRest⟩ := ih tracksModule
      refine ⟨?_, ?_⟩
      · simp only [allUnits, List.map_cons, units]
        rw [restUnits, List.map_map]
      · rw [List.append_assoc, ← lookedUp_append] at tracksRest
        exact tracksRest

end Pass

/-! ## Inputs of one pass -/

theorem isAmong_append (first rest : List UnitsInput) (input : UnitsInput) :
    isAmong (first ++ rest) input = (isAmong first input || isAmong rest input) := by
  simp [isAmong]

/-- The inputs that a pass looks up. -/
def passInputs (own : Settings) (found : Discovery) : List UnitsInput :=
  lookedUp ⟨(consolidate found.modules).modules⟩ found.services (passSettings own found)
    (consolidate found.modules).modules

theorem identity_eq_of_same {left right : UnitsInput} (same : left.same right = true) :
    left.module.identity = right.module.identity := by
  rw [(relocated_of_same same).1]
  rfl

theorem isAmong_lookedUp {graph : DependencyGraph} {services : List ServiceDescriptor}
    {settings : Settings} {front back : List ModuleDescriptor} {module : ModuleDescriptor}
    (distinct : ((front ++ module :: back).map ModuleDescriptor.identity).Nodup) :
    isAmong (lookedUp graph services settings front) (.of module services settings) = false := by
  rw [Bool.eq_false_iff]
  intro known
  simp only [isAmong, List.any_eq_true] at known
  obtain ⟨earlier, member, same⟩ := known
  obtain ⟨other, listed, rfl⟩ := List.mem_map.mp member
  have identity : other.identity = module.identity := identity_eq_of_same same
  rw [List.map_append, List.map_cons, List.nodup_append] at distinct
  exact distinct.2.2 _ (List.mem_map_of_mem (List.mem_of_mem_filter listed)) _
    (List.mem_cons_self ..) identity

/-! ## Steps -/

/-- What is done with a generator. The clones of a generator share its cache and are cancelled with
it, so that it does not matter which of them takes a step. -/
inductive Step where
  | generate (found : Discovery)
  | cancel

namespace Generator

def step (generator : Generator) : Step → Generator
  | .generate found => (generator.generate found).2
  | .cancel => generator.cancel

def after (generator : Generator) (steps : List Step) : Generator :=
  steps.foldl step generator

def cacheBehind (generator : Generator) (found : Discovery) (modules : List ModuleDescriptor) :
    Cache :=
  (allUnits ⟨(consolidate found.modules).modules⟩ found.services
    (passSettings generator.settings found) modules generator.cache).2

end Generator

/-- The inputs of all modules whose references have no problem, over the passes that some steps
make before they cancel. -/
def lookups (own : Settings) : List Step → List UnitsInput
  | [] => []
  | .generate found :: rest => passInputs own found ++ lookups own rest
  | .cancel :: _ => []

namespace Generator

theorem generate_cancelled {generator : Generator} (cancelled : generator.isCancelled = true)
    (found : Discovery) : generator.generate found = (.error .cancelled, generator) := by
  rw [generate, if_pos cancelled]

theorem generate_going {generator : Generator} (going : generator.isCancelled = false)
    (found : Discovery) :
    generator.generate found =
      (.ok (runPass generator.settings found generator.cache).1,
        { generator with
          cache := generator.cacheBehind found (consolidate found.modules).modules }) := by
  rw [generate, if_neg (by simp [going])]
  rfl

theorem after_cons (generator : Generator) (first : Step) (rest : List Step) :
    generator.after (first :: rest) = (generator.step first).after rest :=
  rfl

theorem after_cancelled {generator : Generator} (cancelled : generator.isCancelled = true)
    (steps : List Step) : generator.after steps = generator := by
  induction steps with
  | nil => rfl
  | cons first rest ih =>
      have unchanged : generator.step first = generator := by
        cases first with
        | generate found => rw [step, generate_cancelled cancelled]
        | cancel => rw [step, cancel, ← cancelled]
      rw [after_cons, unchanged, ih]

/-- A pass leaves everything but the cache of a generator as it is. -/
theorem step_generate_eq (generator : Generator) (found : Discovery) :
    ∃ cache, generator.step (.generate found) = { generator with cache } := by
  by_cases cancelled : generator.isCancelled = true
  · exact ⟨generator.cache, by rw [step, generate_cancelled cancelled]⟩
  · have going : generator.isCancelled = false := by simpa using cancelled
    exact ⟨_, by rw [step, generate_going going]⟩

theorem settings_after (generator : Generator) (steps : List Step) :
    (generator.after steps).settings = generator.settings := by
  induction steps generalizing generator with
  | nil => rfl
  | cons first rest ih =>
      rw [after_cons, ih]
      cases first with
      | generate found =>
          obtain ⟨cache, same⟩ := generator.step_generate_eq found
          rw [same]
      | cancel => rfl

theorem isCancelled_after_iff (generator : Generator) (steps : List Step) :
    (generator.after steps).isCancelled = true ↔
      generator.isCancelled = true ∨ Step.cancel ∈ steps := by
  induction steps generalizing generator with
  | nil => simp [after]
  | cons first rest ih =>
      rw [after_cons, ih]
      cases first with
      | generate found =>
          obtain ⟨cache, same⟩ := generator.step_generate_eq found
          simp [same]
      | cancel => simp [step, cancel]

variable {generator : Generator} {inputs : List UnitsInput}

theorem tracks_cacheBehind (tracks : generator.cache.Tracks inputs) (found : Discovery)
    (modules : List ModuleDescriptor) :
    (generator.cacheBehind found modules).Tracks
      (inputs ++ lookedUp ⟨(consolidate found.modules).modules⟩ found.services
        (passSettings generator.settings found) modules) :=
  (tracks_allUnits _ _ _ tracks modules).2

theorem tracks_after (tracks : generator.cache.Tracks inputs)
    (going : generator.isCancelled = false) (steps : List Step) :
    (generator.after steps).cache.Tracks (inputs ++ lookups generator.settings steps) := by
  induction steps generalizing generator inputs with
  | nil => simpa [after, lookups] using tracks
  | cons first rest ih =>
      rw [after_cons]
      cases first with
      | generate found =>
          have behind := tracks_cacheBehind tracks found (consolidate found.modules).modules
          rw [step, generate_going going, lookups, ← List.append_assoc]
          exact ih behind going
      | cancel =>
          have cancelled : (generator.step .cancel).isCancelled = true := rfl
          rw [after_cancelled cancelled, lookups, List.append_nil]
          exact tracks

theorem generate_alike (tracks : generator.cache.Tracks inputs) (found : Discovery) :
    OutcomesAlike (generator.generate found).1
      (({ generator with cache := .empty } : Generator).generate found).1 := by
  cases stopped : generator.isCancelled with
  | true =>
      rw [generate_cancelled stopped, generate_cancelled rfl]
      rfl
  | false =>
      rw [generate_going stopped, generate_going rfl]
      have held := tracks_allUnits ⟨(consolidate found.modules).modules⟩ found.services
        (passSettings generator.settings found) tracks (consolidate found.modules).modules
      have plain := tracks_allUnits ⟨(consolidate found.modules).modules⟩ found.services
        (passSettings generator.settings found) Cache.tracks_empty
        (consolidate found.modules).modules
      exact ofUnits_alike found _ (held.1.trans plain.1.symm)

/-- A module that gets to the cache is a hit exactly if an equal input was looked up in an earlier
pass. -/
theorem counts_cacheBehind (tracks : generator.cache.Tracks inputs) (found : Discovery)
    {front back : List ModuleDescriptor} {module : ModuleDescriptor}
    (split : (consolidate found.modules).modules = front ++ module :: back)
    (quiet : referenceProblems ⟨(consolidate found.modules).modules⟩ module = []) :
    (generator.cacheBehind found (front ++ [module])).hits =
        (generator.cacheBehind found front).hits +
          (isAmong inputs (.of module found.services
            (passSettings generator.settings found))).toNat ∧
      (generator.cacheBehind found (front ++ [module])).misses =
        (generator.cacheBehind found front).misses +
          (!isAmong inputs (.of module found.services
            (passSettings generator.settings found))).toNat := by
  have distinct := nodup_consolidate found.modules
  rw [split] at distinct
  have behind := tracks_cacheBehind tracks found front
  obtain ⟨-, -, hits, misses⟩ :=
    behind.units (.of module found.services (passSettings generator.settings found))
  rw [isAmong_append, isAmong_lookedUp distinct, Bool.or_false] at hits misses
  have taken : generator.cacheBehind found (front ++ [module]) =
      ((generator.cacheBehind found front).units
        (.of module found.services (passSettings generator.settings found))).2 := by
    rw [cacheBehind, allUnits_append]
    simp only [allUnits, moduleUnits, quiet, List.isEmpty_nil, if_true]
    rfl
  rw [taken]
  exact ⟨hits, misses⟩

/-- What can be said of a generator with some settings after some steps. -/
structure Exact (settings : Settings) (steps : List Step) (generator : Generator) : Prop where
  cancelled_iff : generator.isCancelled = true ↔ Step.cancel ∈ steps
  /-- A pass gives what a new generator gives. -/
  asFresh : ∀ found, OutcomesAlike (generator.generate found).1
    ((⟨settings, generator.isCancelled, .empty⟩ : Generator).generate found).1
  /-- The cache holds as many inputs as it has missed, and no two of them are equal. -/
  held : generator.cache.size = generator.cache.misses
  apart : generator.cache.entries.Pairwise fun later earlier => earlier.1.same later.1 = false
  /-- The counters add up to the number of modules that got past the check of their references. -/
  total : generator.cache.hits + generator.cache.misses = (lookups settings steps).length
  /-- A pass looks up its modules one after the other, and each one that gets past the check is a
  hit exactly if an input equal to its own was looked up in an earlier pass. -/
  passed : Step.cancel ∉ steps → ∀ found,
    (generator.generate found).2.cache =
      generator.cacheBehind found (consolidate found.modules).modules
  counted : ∀ found front module back,
    (consolidate found.modules).modules = front ++ module :: back →
    referenceProblems ⟨(consolidate found.modules).modules⟩ module = [] →
      (generator.cacheBehind found (front ++ [module])).hits =
          (generator.cacheBehind found front).hits +
            (isAmong (lookups settings steps)
              (.of module found.services (passSettings settings found))).toNat ∧
        (generator.cacheBehind found (front ++ [module])).misses =
          (generator.cacheBehind found front).misses +
            (!isAmong (lookups settings steps)
              (.of module found.services (passSettings settings found))).toNat
  /-- A generator that has been cancelled makes nothing, and stays as it is. -/
  ended : Step.cancel ∈ steps → ∀ later found,
    (generator.after later).generate found = (.error .cancelled, generator)

/-- Whatever was done with a generator and its clones, its cache does not show in what it makes, and
the counters of the cache are exact. -/
theorem after_exact (settings : Settings) (steps : List Step) :
    Exact settings steps ((ofSettings settings).after steps) := by
  have tracks : ((ofSettings settings).after steps).cache.Tracks ([] ++ lookups settings steps) :=
    tracks_after Cache.tracks_empty rfl steps
  rw [List.nil_append] at tracks
  have own : ((ofSettings settings).after steps).settings = settings := settings_after _ _
  have cancelled_iff : ((ofSettings settings).after steps).isCancelled = true ↔
      Step.cancel ∈ steps := by
    rw [isCancelled_after_iff]
    simp [ofSettings]
  generalize (ofSettings settings).after steps = generator at tracks own cancelled_iff
  subst own
  refine ⟨cancelled_iff, ?_, tracks.size, tracks.apart, tracks.total, ?_, ?_, ?_⟩
  · intro found
    exact generate_alike tracks found
  · intro going found
    rw [generate_going (by simpa using mt cancelled_iff.mp going)]
  · intro found front module back split quiet
    exact counts_cacheBehind tracks found split quiet
  · intro cancel later found
    have cancelled := cancelled_iff.mpr cancel
    rw [after_cancelled cancelled, generate_cancelled cancelled]

end Generator

end Wiring.Generation
