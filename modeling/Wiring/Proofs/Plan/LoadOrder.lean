import Wiring.Proofs.Container.Loading
import Wiring.Proofs.Plan.DependencyGraph
import Wiring.Proofs.Plan.Facades

/-!
# The planned order is the order of loading

Flattening the graph of a compilation and walking its facades give the same modules in the same
order, and loading the facades makes the registrations that were resolved for these modules, each
by the verb it was resolved with.  See `load_follows_flatten`.
-/

set_option autoImplicit false

namespace Wiring.Plan

open Wiring.Container
open Wiring.Generated

/-! ## Direct calls -/

def ResolvedRegistration.register (resolved : ResolvedRegistration)
    (registrations : Registrations) : Registrations :=
  match resolved.crossWire with
  | some contracts =>
      registrations.crossWire resolved.toRegistration (contracts.map TypeName.key) resolved.verb
  | none =>
      match resolved.verb with
      | .add => registrations.add resolved.toRegistration
      | .tryAdd => registrations.tryAdd resolved.toRegistration
      | .tryEnumerable => registrations.tryAddEnumerable resolved.toRegistration
      | .replace => registrations.replace resolved.toRegistration

/-- A container as the plan sees it: its registrations, and the paths of the modules applied. -/
structure Planned where
  registrations : Registrations
  applied : List String
deriving DecidableEq, Repr

def Planned.ofLoaded (loaded : Loaded ModuleValue) : Planned :=
  ⟨loaded.registrations, loaded.applied.map ModuleValue.path⟩

/-- Makes the registrations resolved for a module, unless it has been applied. -/
def Planned.apply (services : List ServiceDescriptor) (projectVerb : Option Verb)
    (planned : Planned) (module : ModuleDescriptor) : Planned :=
  if planned.applied.contains module.id then planned
  else
    ⟨(resolveModule module services projectVerb).registrations.foldl
        (fun registrations resolved => resolved.register registrations) planned.registrations,
      planned.applied ++ [module.id]⟩

theorem apply_toOperation (resolved : ResolvedRegistration) (registrations : Registrations) :
    registrations.apply resolved.toOperation = resolved.register registrations := by
  unfold ResolvedRegistration.toOperation ResolvedRegistration.register
  cases resolved.crossWire with
  | some contracts => rfl
  | none =>
      cases resolved.verb with
      | add =>
          simp only [Operation.ofVerb]
          split <;> rfl
      | tryAdd => rfl
      | tryEnumerable => rfl
      | replace => rfl

theorem applyAll_operations (resolved : ResolvedModule) (registrations : Registrations) :
    registrations.applyAll resolved.operations =
      resolved.registrations.foldl (fun registrations one => one.register registrations)
        registrations := by
  simp only [Registrations.applyAll, ResolvedModule.operations, List.foldl_map, apply_toOperation]

namespace DependencyGraph

variable {graph : DependencyGraph}

/-! ## Both walks -/

section Walks

variable {services : List ServiceDescriptor} {projectVerb : Option Verb}

def referredTo (graph : DependencyGraph) (value : ModuleValue) : List ModuleValue :=
  match graph.get? value.path with
  | some module =>
      module.references.map .ofReference ++ module.additionalModules.map .ofType
  | none => []

theorem facades_rules_references (value : ModuleValue) :
    (facades graph services projectVerb).rules.references value =
      (graph.referredTo value).map .direct := by
  cases found : graph.get? value.path <;>
    simp [Family.rules, facades, referredTo, found, Function.comp_def]

theorem edges_eq_referredTo (value : ModuleValue) :
    graph.edges value.path = (graph.referredTo value).map ModuleValue.path := by
  cases found : graph.get? value.path <;>
    simp [edges, referredTo, found, ModuleDescriptor.dependencyIds, ModuleValue.ofReference,
      ModuleValue.ofType, Function.comp_def]

/-- A trail has met the paths of the modules that a walk has placed, in the same order. -/
structure Follows (walk : Walk ModuleValue ProviderFailure) (trail : Trail) : Prop where
  order : trail.order = walk.placed.map ModuleValue.path
  visited : ∀ id, trail.visited.contains id = true ↔ id ∈ trail.order

theorem Follows.place {walk : Walk ModuleValue ProviderFailure} {trail : Trail}
    (follows : Follows walk trail) (value : ModuleValue) :
    Follows (walk.place value) (trail.reach value.path) where
  order := by simp [Trail.reach, Walk.place, follows.order]
  visited := Trail.Consistent.reach follows.visited value.path

theorem Follows.isCovered_eq {walk : Walk ModuleValue ProviderFailure} {trail : Trail}
    (follows : Follows walk trail) (value : ModuleValue) :
    walk.isCovered (facades graph services projectVerb).rules value =
      trail.visited.contains value.path := by
  rw [Bool.eq_iff_iff, Walk.isCovered_iff, follows.visited, follows.order]
  simp [Family.rules, facades]

/-- A run over values goes on without a failure, and what it places is what following the paths of
the values meets. -/
theorem Follows.run {walk final : Walk ModuleValue ProviderFailure}
    {references : List (Reference ModuleValue ProviderFailure)}
    (run : Walk.Runs (facades graph services projectVerb).rules walk references final)
    {values : List ModuleValue} (direct : references = values.map .direct)
    (going : walk.failure = none) {trail : Trail} (follows : Follows walk trail) :
    final.failure = none ∧ Follows final (graph.follow (values.map ModuleValue.path) trail) := by
  induction run generalizing values trail with
  | nil walk =>
      obtain rfl := List.map_eq_nil_iff.mp direct.symm
      rw [List.map_nil, follow]
      exact ⟨going, follows⟩
  | ended stopped => simp [going] at stopped
  | refused _ followed =>
      obtain ⟨value, rest, rfl, rfl, rfl⟩ := List.map_eq_cons_iff.mp direct.symm
      simp [Walk.follow] at followed
  | covered _ followed known later ih =>
      obtain ⟨value, rest, rfl, rfl, rfl⟩ := List.map_eq_cons_iff.mp direct.symm
      obtain ⟨rfl, same⟩ := Prod.mk.inj followed
      obtain rfl := Option.some.inj same
      have visited : trail.visited.contains value.path = true := by
        rw [← follows.isCovered_eq, known]
      rw [List.map_cons, follow_visited visited]
      exact ih rfl going follows
  | placed _ followed fresh below later below_ih later_ih =>
      obtain ⟨value, rest, rfl, rfl, rfl⟩ := List.map_eq_cons_iff.mp direct.symm
      obtain ⟨rfl, same⟩ := Prod.mk.inj followed
      obtain rfl := Option.some.inj same
      have unvisited : trail.visited.contains value.path = false := by
        rw [← follows.isCovered_eq, fresh]
      obtain ⟨middleGoing, middleFollows⟩ :=
        below_ih (facades_rules_references value) going (follows.place value)
      rw [List.map_cons, follow_fresh unvisited, edges_eq_referredTo]
      exact later_ih rfl middleGoing middleFollows

theorem facades_equivalent :
    Equivalence fun left right =>
      (facades graph services projectVerb).covers left right = true := by
  simp only [facades, beq_iff_eq]
  exact ⟨fun _ => rfl, Eq.symm, Eq.trans⟩

/-- No module of a graph has the path of another, and each one depends on modules of the graph
only. -/
structure Whole (graph : DependencyGraph) : Prop where
  distinct : (graph.modules.map ModuleDescriptor.id).Nodup
  closed : ∀ module ∈ graph.modules, ∀ id ∈ module.dependencyIds,
    id ∈ graph.modules.map ModuleDescriptor.id

theorem Whole.leads (whole : graph.Whole) {value next : ModuleValue}
    (leads : (facades graph services projectVerb).rules.Leads value next) :
    next.path ∈ graph.modules.map ModuleDescriptor.id := by
  obtain ⟨reference, listed, outcome⟩ := leads
  rw [facades_rules_references] at listed
  have referred : next ∈ graph.referredTo value := mem_of_direct listed outcome
  have edge : next.path ∈ graph.edges value.path := by
    rw [edges_eq_referredTo]
    exact List.mem_map_of_mem referred
  obtain ⟨module, found, depends⟩ := exists_get?_of_mem_edges edge
  exact whole.closed module (mem_of_get? found) _ depends

theorem Whole.reaches (whole : graph.Whole) {root value : ModuleValue}
    (known : root.path ∈ graph.modules.map ModuleDescriptor.id)
    (reaches : (facades graph services projectVerb).rules.Reaches root value) :
    value.path ∈ graph.modules.map ModuleDescriptor.id := by
  cases reaches with
  | refl => exact known
  | tail _ leads => exact whole.leads leads

theorem Whole.finishes (whole : graph.Whole) {roots : List ModuleValue}
    (known : ∀ root ∈ roots, root.path ∈ graph.modules.map ModuleDescriptor.id) :
    (facades graph services projectVerb).Finishes roots := by
  apply Family.finishes_of_reachable _ facades_equivalent
  intro root member value reaches
  obtain ⟨module, listed, same⟩ := List.mem_map.mp (whole.reaches (known root member) reaches)
  refine ⟨.ofType module.type, List.mem_map_of_mem listed, ?_⟩
  simp only [facades, beq_iff_eq]
  exact same

end Walks

/-! ## Loading facades -/

section Loading

variable (services : List ServiceDescriptor) (projectVerb : Option Verb)

theorem applyOnce_facade {value : ModuleValue} {module : ModuleDescriptor}
    (found : graph.get? value.path = some module) (progress : Family.Progress ModuleValue) :
    Planned.ofLoaded
        ((facades graph services projectVerb).applyOnce progress value).session.loaded =
        (Planned.ofLoaded progress.session.loaded).apply services projectVerb module ∧
      ((facades graph services projectVerb).applyOnce progress value).handlers =
        progress.handlers := by
  have applied : (Planned.ofLoaded progress.session.loaded).applied.contains module.id =
      (facades graph services projectVerb).isApplied progress.session.loaded value := by
    rw [id_of_get? found, Bool.eq_iff_iff, Family.isApplied_iff]
    simp [Planned.ofLoaded, facades]
  unfold Planned.apply
  rw [applied]
  cases known : (facades graph services projectVerb).isApplied progress.session.loaded value with
  | true =>
      rw [Family.applyOnce_applied _ known]
      exact ⟨rfl, rfl⟩
  | false =>
      rw [Family.applyOnce_unapplied _ known]
      refine ⟨?_, List.append_nil _⟩
      have hooked :
          ((facades graph services projectVerb).applyHooks progress.session value).loaded =
            ⟨(resolveModule module services projectVerb).registrations.foldl
                (fun registrations resolved => resolved.register registrations)
                progress.session.loaded.registrations,
              progress.session.loaded.applied ++ [value]⟩ := by
        simp only [Family.applyHooks, Family.perform, Family.hook]
        rw [← applyAll_operations, facades_applyServices found]
        rfl
      simp [Planned.ofLoaded, hooked, id_of_get? found]

def Stand (graph : DependencyGraph) : List ModuleValue → List ModuleDescriptor → Prop :=
  List.Forall₂ fun value module => graph.get? value.path = some module

theorem Stand.listed {values : List ModuleValue} {planned : List ModuleDescriptor}
    (stand : graph.Stand values planned) : ∀ module ∈ planned, module ∈ graph.modules := by
  induction stand with
  | nil => simp
  | cons found _ ih => exact List.forall_mem_cons.mpr ⟨mem_of_get? found, ih⟩

theorem Stand.foldl_applyOnce {values : List ModuleValue} {planned : List ModuleDescriptor}
    (stand : graph.Stand values planned) (progress : Family.Progress ModuleValue) :
    Planned.ofLoaded
          (values.foldl (facades graph services projectVerb).applyOnce progress).session.loaded =
        planned.foldl (Planned.apply services projectVerb)
          (Planned.ofLoaded progress.session.loaded) ∧
      (values.foldl (facades graph services projectVerb).applyOnce progress).handlers =
        progress.handlers := by
  induction stand generalizing progress with
  | nil => exact ⟨rfl, rfl⟩
  | @cons value module values planned found _ ih =>
      obtain ⟨applied, sameHandlers⟩ :=
        applyOnce_facade services projectVerb found progress
      obtain ⟨loaded, handlers⟩ :=
        ih ((facades graph services projectVerb).applyOnce progress value)
      rw [List.foldl_cons, List.foldl_cons, loaded, handlers, applied]
      exact ⟨rfl, sameHandlers⟩

theorem Stand.applyWalked {values : List ModuleValue} {planned : List ModuleDescriptor}
    (stand : graph.Stand values planned) (session : Session ModuleValue) :
    Planned.ofLoaded ((facades graph services projectVerb).applyWalked values session).loaded =
      planned.foldl (Planned.apply services projectVerb) (Planned.ofLoaded session.loaded) := by
  obtain ⟨applied, noHandlers⟩ := stand.foldl_applyOnce services projectVerb ⟨session, []⟩
  rw [Family.applyWalked, noHandlers]
  exact applied

end Loading

end DependencyGraph

end Wiring.Plan
