import Mathlib.Logic.Relation
import Wiring.Generation.Units
import Wiring.Proofs.Plan.Resolution

/-!
# What the registrations of a module depend on

Services and registrations that do not apply to a module may come and go, and services may be found
in any order: what is registered for the module, and its units, stay the same.  See
`resolveModule_of_edits`.
-/

set_option autoImplicit false

namespace Wiring.Generation

open Wiring.Plan

/-! ## Edits -/

/-- A change to services that leaves alone what applies to a module. -/
inductive Edit (module : ModuleDescriptor) :
    List ServiceDescriptor → List ServiceDescriptor → Prop where
  | reorder {services reordered : List ServiceDescriptor} (perm : services.Perm reordered) :
      Edit module services reordered
  | addService (front back : List ServiceDescriptor) {service : ServiceDescriptor}
      (idle : ∀ registration ∈ service.registrations, ¬Applies module registration) :
      Edit module (front ++ back) (front ++ service :: back)
  | addRegistration (front back : List ServiceDescriptor) (service : ServiceDescriptor)
      {before after : List RegistrationModel} {registration : RegistrationModel}
      (registrations : service.registrations = before ++ after)
      (idle : ¬Applies module registration) :
      Edit module (front ++ service :: back)
        (front ++ { service with registrations := before ++ registration :: after } :: back)

/-- Services that arise from one another by adding and removing what does not apply to a module, and
by reordering. -/
def SameUpToEdits (module : ModuleDescriptor) :
    List ServiceDescriptor → List ServiceDescriptor → Prop :=
  Relation.EqvGen (Edit module)

/-- No two services that register something for a module share a namespace and a name. -/
def Apart (module : ModuleDescriptor) (services : List ServiceDescriptor) : Prop :=
  ((services.filter (concerns module)).map fun service => service.implementation.identity).Nodup

/-! ## What a module sees of services -/

/-- The service with nothing but the registrations that apply to a module. -/
def trimmed (module : ModuleDescriptor) (service : ServiceDescriptor) : ServiceDescriptor :=
  { service with registrations := applicable module service }

def seen (module : ModuleDescriptor) (services : List ServiceDescriptor) : List ServiceDescriptor :=
  (services.filter (concerns module)).map (trimmed module)

section Seen

variable {module : ModuleDescriptor}

theorem trimmed_alike (service : ServiceDescriptor) :
    AlikeFor module (trimmed module service) service where
  implementation := rfl
  interfaces := rfl
  factory := rfl
  applicable := applicable_filter module service fun _ applies => (appliesTo_iff ..).mpr applies

theorem resolveModule_seen (services : List ServiceDescriptor) (projectVerb : Option Verb) :
    resolveModule module (seen module services) projectVerb =
      resolveModule module services projectVerb := by
  rw [seen, resolveModule_map projectVerb _ trimmed_alike]
  exact resolveModule_filter module services projectVerb fun _ concerned => concerned

theorem concerns_eq_false {service : ServiceDescriptor}
    (idle : ∀ registration ∈ service.registrations, ¬Applies module registration) :
    concerns module service = false := by
  rw [Bool.eq_false_iff, ne_eq, concerns_iff]
  rintro ⟨registration, member, applies⟩
  exact idle registration member applies

/-- A registration that does not apply to a module is not seen. -/
theorem applicable_insert {service : ServiceDescriptor} {before after : List RegistrationModel}
    {registration : RegistrationModel} (registrations : service.registrations = before ++ after)
    (idle : ¬Applies module registration) :
    applicable module { service with registrations := before ++ registration :: after } =
      applicable module service := by
  have dropped : ¬registration.appliesTo module.type module.onlyRealm = true := by
    rwa [appliesTo_iff]
  simp only [applicable, registrations, List.filter_append]
  rw [List.filter_cons, if_neg dropped]

/-- An edit changes at most the order of what a module sees. -/
theorem Edit.seen_perm {services edited : List ServiceDescriptor}
    (edit : Edit module services edited) : (seen module services).Perm (seen module edited) := by
  cases edit with
  | reorder perm => exact (perm.filter _).map _
  | addService front back idle =>
      rw [seen, seen, List.filter_append, List.filter_append,
        List.filter_cons_of_neg (by simp [concerns_eq_false idle])]
  | @addRegistration front back service before after registration registrations idle =>
      have same := applicable_insert registrations idle
      have sameConcern :
          concerns module { service with registrations := before ++ registration :: after } =
            concerns module service := by rw [concerns, concerns, same]
      have sameTrimmed :
          trimmed module { service with registrations := before ++ registration :: after } =
            trimmed module service := by rw [trimmed, trimmed, same]
      simp only [seen, List.filter_append, List.map_append, List.filter_cons, sameConcern]
      split
      · rw [List.map_cons, List.map_cons, sameTrimmed]
      · exact List.Perm.refl _

theorem SameUpToEdits.seen_perm {services edited : List ServiceDescriptor}
    (edits : SameUpToEdits module services edited) :
    (seen module services).Perm (seen module edited) := by
  induction edits with
  | rel services edited edit => exact edit.seen_perm
  | refl services => exact List.Perm.refl _
  | symm services edited _ ih => exact ih.symm
  | trans services between edited _ _ first second => exact first.trans second

theorem Apart.seen {services : List ServiceDescriptor} (apart : Apart module services) :
    ((Generation.seen module services).map fun service =>
      service.implementation.identity).Nodup := by
  rwa [Generation.seen, List.map_map]

theorem concerns_trimmed (service : ServiceDescriptor) :
    concerns module (trimmed module service) = concerns module service :=
  (trimmed_alike service).concerns

/-- Where no two services that a module sees share a namespace and a name, their order does not
matter. -/
theorem resolveModule_of_seen_perm {services edited : List ServiceDescriptor}
    (perm : (seen module services).Perm (seen module edited)) (apart : Apart module services)
    (projectVerb : Option Verb) :
    resolveModule module edited projectVerb = resolveModule module services projectVerb := by
  have concerned : ∀ found, (seen module found).filter (concerns module) = seen module found := by
    intro found
    rw [List.filter_eq_self]
    intro service member
    obtain ⟨original, kept, rfl⟩ := List.mem_map.mp member
    rw [concerns_trimmed]
    exact List.of_mem_filter kept
  -- The sort is stable: services of one name and namespace would keep the order they came in.
  have sorted : (seen module services).mergeSort precedes =
      (seen module edited).mergeSort precedes :=
    mergeSort_precedes_eq_of_perm perm apart.seen
  rw [← resolveModule_seen edited, ← resolveModule_seen services, resolveModule_eq,
    resolveModule_eq, concerned, concerned, sorted]

end Seen

/-! ## Inputs -/

/-- The services that are kept for the units of a module register for it what all services do. -/
theorem resolveModule_kept (module : ModuleDescriptor) (services : List ServiceDescriptor)
    (settings : Settings) (projectVerb : Option Verb) :
    resolveModule module (UnitsInput.of module services settings).services projectVerb =
      resolveModule module services projectVerb :=
  resolveModule_filter module services projectVerb fun service concerned => by
    rwa [appliesTo_eq_concerns]

theorem generateUnits_of_resolved {module : ModuleDescriptor}
    {services edited : List ServiceDescriptor} {settings : Settings}
    (same : resolveModule module edited settings.defaultVerb =
      resolveModule module services settings.defaultVerb) :
    generateUnits (.of module edited settings) = generateUnits (.of module services settings) := by
  have resolved : (UnitsInput.of module edited settings).resolved =
      (UnitsInput.of module services settings).resolved := by
    calc (UnitsInput.of module edited settings).resolved
        = resolveModule module edited settings.defaultVerb := resolveModule_kept ..
      _ = resolveModule module services settings.defaultVerb := same
      _ = (UnitsInput.of module services settings).resolved := (resolveModule_kept ..).symm
  unfold generateUnits
  rw [resolved]
  rfl

/-- What is registered for a module depends on nothing but the registrations that apply to it: not
on the order in which services were found if no two of those that concern it share a namespace and
a name, and not on the services and registrations that do not. In particular the services that are
kept for its units register what all of them do. -/
theorem resolveModule_of_edits (module : ModuleDescriptor) :
    (∀ services edited, SameUpToEdits module services edited → Apart module services →
      (∀ projectVerb,
        resolveModule module edited projectVerb = resolveModule module services projectVerb ∧
          (resolveModule module edited projectVerb).operations =
            (resolveModule module services projectVerb).operations) ∧
        ∀ settings, generateUnits (.of module edited settings) =
          generateUnits (.of module services settings)) ∧
      ∀ services settings projectVerb,
        resolveModule module (UnitsInput.of module services settings).services projectVerb =
          resolveModule module services projectVerb := by
  constructor
  · intro services edited edits apart
    have same := resolveModule_of_seen_perm edits.seen_perm apart
    refine ⟨?_, fun settings => generateUnits_of_resolved (same settings.defaultVerb)⟩
    intro projectVerb
    exact ⟨same projectVerb, congrArg ResolvedModule.operations (same projectVerb)⟩
  · exact resolveModule_kept module

def watchmaker : ModuleDescriptor :=
  .ofType (.of "crate" "Watchmaker") "src/lib.rs"

def elsewhere : RegistrationModel :=
  { RegistrationModel.ofLifetime .transient with realm := some (.of "crate" "Shop") }

def clock (space : String) (registrations : List RegistrationModel) : ServiceDescriptor :=
  { ServiceDescriptor.ofImplementation (.of space "Clock") with registrations := registrations }

def clocks : List ServiceDescriptor :=
  [clock "crate::wall" [.ofLifetime .scoped], clock "crate::wrist" [.ofLifetime .singleton]]

def moreClocks : List ServiceDescriptor :=
  [clock "crate::wrist" [elsewhere, .ofLifetime .singleton], clock "crate::shop" [elsewhere],
    clock "crate::wall" [.ofLifetime .scoped]]

theorem resolveModule_of_edits_clocks :
    SameUpToEdits watchmaker clocks moreClocks ∧ Apart watchmaker clocks ∧
      resolveModule watchmaker moreClocks none = resolveModule watchmaker clocks none := by
  have idle : ¬Applies watchmaker elsewhere := by decide
  have registration : Edit watchmaker clocks
      [clock "crate::wall" [.ofLifetime .scoped],
        clock "crate::wrist" [elsewhere, .ofLifetime .singleton]] :=
    .addRegistration [clock "crate::wall" [.ofLifetime .scoped]] []
      (clock "crate::wrist" [.ofLifetime .singleton]) (List.nil_append _).symm idle
  have service : Edit watchmaker
      [clock "crate::wrist" [elsewhere, .ofLifetime .singleton],
        clock "crate::wall" [.ofLifetime .scoped]] moreClocks :=
    .addService [clock "crate::wrist" [elsewhere, .ofLifetime .singleton]]
      [clock "crate::wall" [.ofLifetime .scoped]] (by simpa [clock] using idle)
  have edits : SameUpToEdits watchmaker clocks moreClocks :=
    .trans _ _ _ (.rel _ _ registration)
      (.trans _ _ _ (.rel _ _ (.reorder (List.Perm.swap ..))) (.rel _ _ service))
  have apart : Apart watchmaker clocks := by
    unfold Apart
    decide
  obtain ⟨registered, -⟩ := (resolveModule_of_edits watchmaker).1 _ _ edits apart
  exact ⟨edits, apart, (registered none).1⟩

end Wiring.Generation
