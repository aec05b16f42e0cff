import Mathlib.Data.List.Forall2
import Mathlib.Data.List.Induction
import Mathlib.Data.List.ReduceOption
import Wiring.Proofs.Plan.ServiceOrder

/-!
# What is registered for a module

Each registration that applies to a module is registered once, or by the cross-wired registration
of its realm, and nothing else is registered.  See `resolveModule_registers`.
-/

set_option autoImplicit false

namespace Wiring.Plan

/-! ## Which registrations apply -/

/-- Whether a registration applies to a module: its realm is the module, or it has no realm and the
module takes such registrations. -/
def Applies (module : ModuleDescriptor) (registration : RegistrationModel) : Prop :=
  registration.realm = some module.type ∨ registration.realm = none ∧ module.onlyRealm = false

instance decidableApplies (module : ModuleDescriptor) : DecidablePred (Applies module) :=
  fun _ => inferInstanceAs (Decidable (_ ∨ _ ∧ _))

theorem appliesTo_iff (module : ModuleDescriptor) (registration : RegistrationModel) :
    registration.appliesTo module.type module.onlyRealm = true ↔ Applies module registration := by
  cases realm : registration.realm <;> simp [RegistrationModel.appliesTo, Applies, realm]

theorem mem_applicable {module : ModuleDescriptor} {service : ServiceDescriptor}
    {registration : RegistrationModel} :
    registration ∈ applicable module service ↔
      registration ∈ service.registrations ∧ Applies module registration := by
  rw [applicable, List.mem_filter, appliesTo_iff]

def concerns (module : ModuleDescriptor) (service : ServiceDescriptor) : Bool :=
  !(applicable module service).isEmpty

theorem concerns_iff (module : ModuleDescriptor) (service : ServiceDescriptor) :
    concerns module service = true ↔
      ∃ registration ∈ service.registrations, Applies module registration := by
  rw [concerns, Bool.not_eq_true', List.isEmpty_eq_false_iff_exists_mem]
  simp only [mem_applicable]

theorem appliesTo_eq_concerns (module : ModuleDescriptor) (service : ServiceDescriptor) :
    service.appliesTo module.type module.onlyRealm = concerns module service := by
  rw [Bool.eq_iff_iff, concerns_iff, ServiceDescriptor.appliesTo, List.any_eq_true]
  simp only [appliesTo_iff]

/-! ## Services in their order -/

section Services

variable (module : ModuleDescriptor) (services : List ServiceDescriptor)
  (projectVerb : Option Verb)

theorem resolveModule_eq :
    resolveModule module services projectVerb =
      ⟨module.type,
        ((services.filter (concerns module)).mergeSort precedes).flatMap
          (resolveService module projectVerb),
        distinct (((services.filter (concerns module)).mergeSort precedes).filterMap
          glueFactory?)⟩ := by
  have nonempty : ∀ service, (concerns module service && !service.isEmpty) =
      concerns module service := by
    intro service
    rw [Bool.and_eq_left_iff_imp, concerns_iff]
    rintro ⟨registration, member, -⟩
    simpa [ServiceDescriptor.isEmpty] using List.ne_nil_of_mem member
  have taken : (orderedServices services).filter (concerns module) =
      (services.filter (concerns module)).mergeSort precedes := by
    rw [orderedServices, filter_mergeSort precedes_trans precedes_total, List.filter_filter]
    simp only [nonempty]
  rw [← taken]
  rfl

theorem resolveModule_filter {kept : ServiceDescriptor → Bool}
    (keeps : ∀ service, concerns module service = true → kept service = true) :
    resolveModule module (services.filter kept) projectVerb =
      resolveModule module services projectVerb := by
  have same : ∀ service, (concerns module service && kept service) = concerns module service := by
    intro service
    rw [Bool.and_eq_left_iff_imp]
    exact keeps service
  rw [resolveModule_eq, resolveModule_eq, List.filter_filter]
  simp only [same]

end Services

/-- Services that a module cannot tell apart. -/
structure AlikeFor (module : ModuleDescriptor) (left right : ServiceDescriptor) : Prop where
  implementation : left.implementation = right.implementation
  interfaces : left.interfaces = right.interfaces
  factory : left.factory = right.factory
  applicable : applicable module left = applicable module right

section Alike

variable {module : ModuleDescriptor} (projectVerb : Option Verb)

theorem AlikeFor.resolveService {left right : ServiceDescriptor}
    (alike : AlikeFor module left right) :
    resolveService module projectVerb left = resolveService module projectVerb right := by
  obtain ⟨implementation, sourceFile, interfaces, registrations, factory⟩ := left
  obtain ⟨implementation', sourceFile', interfaces', registrations', factory'⟩ := right
  obtain ⟨rfl, rfl, rfl, same⟩ := alike
  unfold Plan.resolveService
  rw [same]
  rfl

theorem AlikeFor.glueFactory? {left right : ServiceDescriptor}
    (alike : AlikeFor module left right) :
    glueFactory? left = glueFactory? right := by
  rw [Plan.glueFactory?, Plan.glueFactory?, alike.factory]

theorem AlikeFor.concerns {left right : ServiceDescriptor} (alike : AlikeFor module left right) :
    concerns module left = concerns module right := by
  rw [Plan.concerns, Plan.concerns, alike.applicable]

theorem resolveModule_map (services : List ServiceDescriptor)
    {change : ServiceDescriptor → ServiceDescriptor}
    (alike : ∀ service, AlikeFor module (change service) service) :
    resolveModule module (services.map change) projectVerb =
      resolveModule module services projectVerb := by
  have sorted : ((services.map change).filter (Plan.concerns module)).mergeSort precedes =
      ((services.filter (Plan.concerns module)).mergeSort precedes).map change := by
    have order : ∀ left right, precedes left right = precedes (change left) (change right) := by
      intro left right
      simp only [precedes, (alike _).implementation]
    have concerned : Plan.concerns module ∘ change = Plan.concerns module := by
      funext service
      exact (alike service).concerns
    rw [List.filter_map, concerned, List.map_mergeSort fun left _ right _ => order left right]
  have resolved : (fun service => Plan.resolveService module projectVerb (change service)) =
      Plan.resolveService module projectVerb := by
    funext service
    exact (alike service).resolveService projectVerb
  have glue : Plan.glueFactory? ∘ change = Plan.glueFactory? := by
    funext service
    exact (alike service).glueFactory?
  rw [resolveModule_eq, resolveModule_eq, sorted, List.flatMap_map, List.filterMap_map, resolved,
    glue]

end Alike

/-! ## Realms, each once -/

section Distinct

variable {α : Type} [BEq α]

theorem distinct_snoc (values : List α) (last : α) :
    distinct (values ++ [last]) =
      if (distinct values).contains last then distinct values else distinct values ++ [last] := by
  rw [distinct, List.foldl_append]
  rfl

variable [LawfulBEq α]

theorem mem_distinct (value : α) (values : List α) : value ∈ distinct values ↔ value ∈ values := by
  induction values using List.reverseRecOn with
  | nil => rfl
  | append_singleton values last ih =>
      rw [distinct_snoc, List.mem_append, List.mem_singleton, ← ih]
      split
      · rename_i known
        constructor
        · exact .inl
        · rintro (member | rfl)
          · exact member
          · simpa using known
      · rw [List.mem_append, List.mem_singleton]

theorem nodup_distinct (values : List α) : (distinct values).Nodup := by
  induction values using List.reverseRecOn with
  | nil => exact List.nodup_nil
  | append_singleton values last ih =>
      rw [distinct_snoc]
      split
      · exact ih
      · rename_i fresh
        have absent : last ∉ distinct values := by simpa using fresh
        exact List.nodup_append_comm.mp (List.nodup_cons.mpr ⟨absent, ih⟩)

end Distinct

/-! ## What one service registers -/

/-- The registrations of a service that apply to a module and have one realm, in the order in which
they are declared. -/
def realmRegistrations (module : ModuleDescriptor) (service : ServiceDescriptor)
    (realm : Option TypeName) : List RegistrationModel :=
  service.registrations.filter fun registration =>
    decide (Applies module registration ∧ registration.realm = realm)

def offered (service : ServiceDescriptor) : List TypeName :=
  service.interfaces.filter fun type => decide (type.name ∉ infrastructureTraits)

/-- What is resolved for a registration under a contract: it is one of the service, with the
lifetime and the key of the registration, and the verb is the first that is declared, or adds. -/
structure ResolvesTo (module : ModuleDescriptor) (projectVerb : Option Verb)
    (service : ServiceDescriptor) (registration : RegistrationModel) (contract : TypeName)
    (forwards : Option (List TypeName)) (resolved : ResolvedRegistration) : Prop where
  implementationType : resolved.implementationType = service.implementation
  implementation : resolved.implementation = implementationOf service
  service : resolved.service = contract
  lifetime : resolved.lifetime = registration.lifetime
  key : resolved.key = registration.key
  verb : resolved.verb =
    ([registration.verb, module.verb, projectVerb].reduceOption).headD .add
  crossWire : resolved.crossWire = forwards

/-- What the registrations of one realm register: the first cross-wired one stands for all of them
and is made under the implementation itself; where there is none, each one is made under its own
contract. -/
inductive RegistersRealm (module : ModuleDescriptor) (projectVerb : Option Verb)
    (service : ServiceDescriptor) : List RegistrationModel → List ResolvedRegistration → Prop where
  | wired (front : List RegistrationModel) (wired : RegistrationModel)
      (back : List RegistrationModel) (resolved : ResolvedRegistration)
      (plain : ∀ registration ∈ front, registration.crossWire = false)
      (crossWire : wired.crossWire = true)
      (resolves : ResolvesTo module projectVerb service wired service.implementation
        (some (offered service)) resolved) :
      RegistersRealm module projectVerb service (front ++ wired :: back) [resolved]
  | each (registrations : List RegistrationModel) (resolved : List ResolvedRegistration)
      (plain : ∀ registration ∈ registrations, registration.crossWire = false)
      (resolves : List.Forall₂ (fun registration one =>
        ResolvesTo module projectVerb service registration
          ((registration.service.toList ++ offered service).headD service.implementation) none one)
        registrations resolved) :
      RegistersRealm module projectVerb service registrations resolved

/-- What a service registers: for each realm that occurs among its registrations that apply, what
the registrations of the realm register. -/
def Registers (module : ModuleDescriptor) (projectVerb : Option Verb)
    (service : ServiceDescriptor) (resolved : List ResolvedRegistration) : Prop :=
  ∃ realms blocks,
    realms.Nodup ∧
      (∀ realm, realm ∈ realms ↔
        ∃ registration ∈ service.registrations,
          Applies module registration ∧ registration.realm = realm) ∧
      List.Forall₂ (fun realm block =>
        RegistersRealm module projectVerb service (realmRegistrations module service realm) block)
        realms blocks ∧
      resolved = blocks.flatten

section Service

variable (module : ModuleDescriptor) (projectVerb : Option Verb) (service : ServiceDescriptor)

theorem offered_eq : offered service = service.contracts := by
  simp [offered, ServiceDescriptor.contracts, TypeName.isInfrastructure]

theorem serviceType_eq (registration : RegistrationModel) :
    service.serviceType registration =
      (registration.service.toList ++ offered service).headD service.implementation := by
  rw [offered_eq, ServiceDescriptor.serviceType]
  cases registration.service with
  | some explicit => rfl
  | none => cases service.contracts <;> rfl

theorem verbOf_eq (registration : RegistrationModel) :
    verbOf module projectVerb registration =
      ([registration.verb, module.verb, projectVerb].reduceOption).headD .add := by
  unfold verbOf Verb.resolve
  cases registration.verb <;> cases module.verb <;> cases projectVerb <;> rfl

theorem realmRegistrations_eq (realm : Option TypeName) :
    realmRegistrations module service realm =
      (applicable module service).filter (·.realm == realm) := by
  rw [applicable, List.filter_filter, realmRegistrations]
  apply List.filter_congr
  intro registration _
  rw [Bool.eq_iff_iff, Bool.and_eq_true, appliesTo_iff, decide_eq_true_iff, beq_iff_eq, and_comm]

theorem resolveRealm_registers (group : List RegistrationModel) :
    RegistersRealm module projectVerb service group
      (resolveRealm module projectVerb service group) := by
  unfold resolveRealm
  cases found : group.find? (·.crossWire) with
  | some wired =>
      obtain ⟨crossWire, front, back, rfl, plain⟩ := List.find?_eq_some_iff_append.mp found
      refine .wired front wired back _ (by simpa using plain) crossWire ?_
      exact ⟨rfl, rfl, rfl, rfl, rfl, verbOf_eq module projectVerb wired,
        congrArg some (offered_eq service).symm⟩
  | none =>
      refine .each group _ (by simpa using found) ?_
      rw [List.forall₂_map_right_iff, List.forall₂_same]
      intro registration _
      exact ⟨rfl, rfl, serviceType_eq service registration, rfl, rfl,
        verbOf_eq module projectVerb registration, rfl⟩

theorem resolveService_registers :
    Registers module projectVerb service (resolveService module projectVerb service) := by
  refine ⟨distinct ((applicable module service).map (·.realm)),
    (distinct ((applicable module service).map (·.realm))).map fun realm =>
      resolveRealm module projectVerb service (realmRegistrations module service realm),
    nodup_distinct _, ?_, ?_, ?_⟩
  · intro realm
    simp only [mem_distinct, List.mem_map, mem_applicable, and_assoc]
  · rw [List.forall₂_map_right_iff, List.forall₂_same]
    intro realm _
    exact resolveRealm_registers module projectVerb service _
  · rw [resolveService, ← List.flatMap_def]
    simp only [realmRegistrations_eq]

theorem implementationType_of_mem_resolveService {resolved : ResolvedRegistration}
    (member : resolved ∈ resolveService module projectVerb service) :
    resolved.implementationType = service.implementation := by
  simp only [resolveService, List.mem_flatMap] at member
  obtain ⟨realm, -, member⟩ := member
  unfold resolveRealm at member
  split at member
  · rw [List.mem_singleton.mp member]
  · obtain ⟨registration, -, rfl⟩ := List.mem_map.mp member
    rfl

theorem resolveService_eq_nil (idle : concerns module service = false) :
    resolveService module projectVerb service = [] := by
  have none : applicable module service = [] := by
    simpa [concerns] using idle
  rw [resolveService, none]
  rfl

end Service

/-! ## What is registered for a module -/

def InNameOrder (earlier later : ResolvedRegistration) : Prop :=
  earlier.implementationType.name < later.implementationType.name ∨
    earlier.implementationType.name = later.implementationType.name ∧
      earlier.implementationType.space ≤ later.implementationType.space

def withoutOthers (module : ModuleDescriptor) (service : ServiceDescriptor) : ServiceDescriptor :=
  { service with
    registrations := service.registrations.filter fun registration =>
      decide (registration.realm = none ∨ registration.realm = some module.type) }

section Module

variable (module : ModuleDescriptor) (services : List ServiceDescriptor)
  (projectVerb : Option Verb)

theorem registrations_eq :
    (resolveModule module services projectVerb).registrations =
      (services.mergeSort precedes).flatMap (resolveService module projectVerb) := by
  rw [resolveModule_eq, ← filter_mergeSort precedes_trans precedes_total]
  -- A service that does not concern the module registers nothing, so all of them may be taken.
  induction services.mergeSort precedes with
  | nil => rfl
  | cons service rest ih =>
      rw [List.flatMap_cons, ← ih]
      cases concerned : concerns module service with
      | true => rw [List.filter_cons_of_pos concerned, List.flatMap_cons]
      | false =>
          rw [List.filter_cons_of_neg (by simp [concerned]),
            resolveService_eq_nil module projectVerb service concerned, List.nil_append]

theorem registrations_inNameOrder :
    (resolveModule module services projectVerb).registrations.Pairwise InNameOrder := by
  rw [registrations_eq, List.pairwise_flatMap]
  constructor
  · intro service _
    apply List.pairwise_of_forall_mem_list
    intro earlier earlierMember later laterMember
    right
    rw [implementationType_of_mem_resolveService module projectVerb service earlierMember,
      implementationType_of_mem_resolveService module projectVerb service laterMember]
    exact ⟨rfl, le_rfl⟩
  · refine (pairwise_mergeSort_precedes services).imp ?_
    intro first second before earlier earlierMember later laterMember
    rw [InNameOrder,
      implementationType_of_mem_resolveService module projectVerb first earlierMember,
      implementationType_of_mem_resolveService module projectVerb second laterMember]
    simpa [precedes] using before

/-- What does not apply to a module may be left out of a service. -/
theorem applicable_filter {kept : RegistrationModel → Bool} (service : ServiceDescriptor)
    (keeps : ∀ registration, Applies module registration → kept registration = true) :
    applicable module { service with registrations := service.registrations.filter kept } =
      applicable module service := by
  rw [applicable, applicable, List.filter_filter]
  apply List.filter_congr
  intro registration _
  rw [Bool.and_eq_left_iff_imp, appliesTo_iff]
  exact keeps registration

theorem withoutOthers_alike (service : ServiceDescriptor) :
    AlikeFor module (withoutOthers module service) service where
  implementation := rfl
  interfaces := rfl
  factory := rfl
  applicable := by
    apply applicable_filter
    rintro registration (ofModule | ⟨ofNone, -⟩)
    · exact decide_eq_true (.inr ofModule)
    · exact decide_eq_true (.inl ofNone)

end Module

/-- What is registered for a module is what each service registers for it, one service after the
other by the names and the namespaces of their implementations. Registrations for other modules do
not count. -/
theorem resolveModule_registers (module : ModuleDescriptor) (services : List ServiceDescriptor)
    (projectVerb : Option Verb) :
    (∃ ordered blocks,
      ordered.Perm services ∧
        List.Forall₂ (Registers module projectVerb) ordered blocks ∧
        (resolveModule module services projectVerb).registrations = blocks.flatten) ∧
      (resolveModule module services projectVerb).registrations.Pairwise InNameOrder ∧
      resolveModule module (services.map (withoutOthers module)) projectVerb =
        resolveModule module services projectVerb := by
  refine ⟨⟨services.mergeSort precedes,
    (services.mergeSort precedes).map (resolveService module projectVerb),
    List.mergeSort_perm services precedes, ?_, ?_⟩,
    registrations_inNameOrder module services projectVerb,
    resolveModule_map projectVerb services (withoutOthers_alike module)⟩
  · rw [List.forall₂_map_right_iff, List.forall₂_same]
    intro service _
    exact resolveService_registers module projectVerb service
  · rw [registrations_eq, List.flatMap_def]

-- Cross-wiring in the realm of the module leaves the registration without a realm as it is.
example :
    let post := ModuleDescriptor.ofType (.of "crate" "Post") "src/lib.rs"
    let ofPost := { RegistrationModel.ofLifetime .singleton with realm := some post.type }
    let mailer := { ServiceDescriptor.ofImplementation (.of "crate" "Mailer") with
      interfaces := [.of "core::fmt" "Debug", .of "crate" "Sends"]
      registrations := [.ofLifetime .scoped, ofPost,
        { ofPost with lifetime := .transient, crossWire := true }] }
    ((resolveModule post [mailer] none).registrations.map fun one =>
        (one.service.name, one.lifetime, one.crossWire.isSome)) =
      [("Sends", .scoped, false), ("Mailer", .transient, true)] := by
  decide +kernel

end Wiring.Plan
