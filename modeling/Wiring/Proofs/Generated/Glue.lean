import Wiring.Generated.Registrations
import Wiring.Proofs.Outcome
import Wiring.Proofs.Plan.Resolution
import Wiring.Proofs.Text.Segments

/-!
# Glue functions

The factories that need glue are those of the services that concern a module, each once, and a
registration names the glue function of the factory of its own service.  The name keeps less than
the path, so two factories may share one: see `resolveModule_glue` and `glueName_shared`.
-/

set_option autoImplicit false

namespace Wiring.Plan

open Wiring.Generated
open Wiring.Text

/-! ## Names -/

/-- What the name of a glue function keeps of the path of its factory: the segments behind the
crate, in lower case. -/
def keptSegments (factory : FactoryMethod) : List String :=
  (segmentsOfChars (dropLeads "crate::".toList factory.path.toList.length
    factory.path.toList)).map fun part => lowercase (String.ofList part)

/-- Whether the kept segments of two factories are the same text with underscores between them. -/
def JoinAlike (left right : FactoryMethod) : Prop :=
  "_".intercalate (keptSegments left) = "_".intercalate (keptSegments right)

instance decidableJoinAlike (left right : FactoryMethod) : Decidable (JoinAlike left right) :=
  inferInstanceAs (Decidable (_ = _))

theorem glueName_eq (factory : FactoryMethod) :
    factory.glueName = FactoryMethod.glueLead ++ "_".intercalate (keptSegments factory) :=
  rfl

theorem glueName_eq_iff (left right : FactoryMethod) :
    left.glueName = right.glueName ↔ JoinAlike left right := by
  rw [glueName_eq, glueName_eq, String.append_right_inj, JoinAlike]

theorem joinAlike_iff {left right : FactoryMethod}
    (leftPlain : ∀ segment ∈ keptSegments left, '_' ∉ segment.toList)
    (rightPlain : ∀ segment ∈ keptSegments right, '_' ∉ segment.toList) :
    JoinAlike left right ↔ keptSegments left = keptSegments right := by
  have split : ∀ factory : FactoryMethod,
      (∀ segment ∈ keptSegments factory, '_' ∉ segment.toList) →
      ("_".intercalate (keptSegments factory)).toList.splitOn '_' =
        (keptSegments factory).map String.toList := by
    intro factory plain
    have nonempty : keptSegments factory ≠ [] := by
      simpa [keptSegments] using segmentsOfChars_ne_nil _
    have underscore : "_".toList = ['_'] := by decide
    rw [String.toList_intercalate, underscore]
    exact List.splitOn_intercalate '_' (by simpa using plain) (by simpa using nonempty)
  constructor
  · intro alike
    have parts := congrArg (fun text : String => text.toList.splitOn '_') alike
    rw [split left leftPlain, split right rightPlain] at parts
    exact List.map_injective_iff.mpr (fun _ _ => String.toList_injective) parts
  · intro same
    rw [JoinAlike, same]

/-! ## Factories that need glue -/

theorem glueFactory?_eq_some_iff {service : ServiceDescriptor} {factory : FactoryMethod} :
    glueFactory? service = some factory ↔
      service.factory = some factory ∧ factory.takesContainerOnly = false := by
  rw [glueFactory?, Option.filter_eq_some_iff, Bool.not_eq_true']

/-- A service is called through glue exactly if its factory needs it, and then by the name of this
factory. -/
theorem implementationOf_eq_glue_iff {service : ServiceDescriptor} {name : String} :
    implementationOf service = .glue name ↔
      ∃ factory, glueFactory? service = some factory ∧ factory.glueName = name := by
  simp only [glueFactory?_eq_some_iff]
  unfold implementationOf
  cases service.factory with
  | none => simp
  | some factory => cases direct : factory.takesContainerOnly <;> simp [direct]

section Module

variable (module : ModuleDescriptor) (services : List ServiceDescriptor)
  (projectVerb : Option Verb)

theorem nodup_glueFactories :
    (resolveModule module services projectVerb).glueFactories.Nodup := by
  rw [resolveModule_eq]
  exact nodup_distinct _

theorem mem_glueFactories_iff (factory : FactoryMethod) :
    factory ∈ (resolveModule module services projectVerb).glueFactories ↔
      ∃ service ∈ services, concerns module service = true ∧
        glueFactory? service = some factory := by
  rw [resolveModule_eq]
  simp only [mem_distinct, List.mem_filterMap, List.mem_mergeSort, List.mem_filter, and_assoc]

theorem implementation_of_mem_resolveService {service : ServiceDescriptor}
    {registration : ResolvedRegistration}
    (member : registration ∈ resolveService module projectVerb service) :
    registration.implementation = implementationOf service := by
  simp only [resolveService, List.mem_flatMap] at member
  obtain ⟨realm, -, member⟩ := member
  unfold resolveRealm at member
  split at member
  · rw [List.mem_singleton.mp member]
  · obtain ⟨declared, -, rfl⟩ := List.mem_map.mp member
    rfl

theorem concerns_of_mem_resolveService {service : ServiceDescriptor}
    {registration : ResolvedRegistration}
    (member : registration ∈ resolveService module projectVerb service) :
    concerns module service = true := by
  by_contra idle
  rw [Bool.not_eq_true] at idle
  rw [resolveService_eq_nil module projectVerb service idle] at member
  exact List.not_mem_nil member

end Module

theorem filter_glueName_eq_iff {factories : List FactoryMethod} (distinct : factories.Nodup)
    {factory : FactoryMethod} (member : factory ∈ factories) :
    factories.filter (fun other => other.glueName == factory.glueName) = [factory] ↔
      ∀ other ∈ factories, JoinAlike other factory → other = factory := by
  constructor
  · intro only other listed alike
    have among : other ∈ factories.filter fun other => other.glueName == factory.glueName :=
      List.mem_filter.mpr ⟨listed, beq_iff_eq.mpr ((glueName_eq_iff other factory).mpr alike)⟩
    rw [only] at among
    exact List.mem_singleton.mp among
  · intro alone
    have same : factories.filter (fun other => other.glueName == factory.glueName) =
        factories.filter (fun other => other == factory) := by
      apply List.filter_congr
      intro other listed
      rw [Bool.eq_iff_iff, beq_iff_eq, beq_iff_eq, glueName_eq_iff]
      constructor
      · exact alone other listed
      · rintro rfl
        rfl
    rw [same, List.filter_beq, distinct.count, if_pos member]
    rfl

/-! ## Glue of one module -/

/-- A glue function that calls a factory, under the name that the factory gives it. -/
structure Wraps (module : ModuleDescriptor) (factory : FactoryMethod) (glue : Glue) : Prop where
  name : namePart module factory.glueName = .ok glue.name
  path : pathPart module factory.path = .ok glue.path

theorem wraps_of_glueOf {module : ModuleDescriptor} {factory : FactoryMethod} {glue : Glue}
    (made : glueOf module factory = .ok glue) : Wraps module factory glue := by
  simp only [glueOf, Outcome.bind_eq_ok_iff, Outcome.pure_eq_ok_iff] at made
  obtain ⟨name, named, path, pathed, arguments, -, rfl⟩ := made
  exact ⟨named, pathed⟩

theorem wraps_of_registrationsUnitOf {module : ModuleDescriptor} {resolved : ResolvedModule}
    {operations : List Container.Operation} {unit : RegistrationsUnit}
    (made : registrationsUnitOf module resolved operations = .ok unit) :
    List.Forall₂ (Wraps module) resolved.glueFactories unit.glue := by
  simp only [registrationsUnitOf, Outcome.bind_eq_ok_iff, Outcome.pure_eq_ok_iff] at made
  obtain ⟨owner, -, codes, -, glue, glued, rfl⟩ := made
  exact (Outcome.forall₂_of_mapM glued).imp fun _ _ => wraps_of_glueOf

/-- What can be said of the glue of a module. -/
structure GlueExact (module : ModuleDescriptor) (services : List ServiceDescriptor)
    (projectVerb : Option Verb) (resolved : ResolvedModule) : Prop where
  nodup : resolved.glueFactories.Nodup
  mem_iff : ∀ factory, factory ∈ resolved.glueFactories ↔
    ∃ service ∈ services, concerns module service = true ∧ service.factory = some factory ∧
      factory.takesContainerOnly = false
  origin : ∀ registration ∈ resolved.registrations,
    ∃ service ∈ services, registration ∈ resolveService module projectVerb service
  /-- A registration through glue names the factory of its own service, and the name belongs to no
  other factory exactly if none reads alike. -/
  own : ∀ service ∈ services, ∀ registration ∈ resolveService module projectVerb service,
    ∀ name, registration.implementation = .glue name →
      ∃ factory ∈ resolved.glueFactories, service.factory = some factory ∧
        factory.glueName = name ∧
        (resolved.glueFactories.filter (fun other => other.glueName == name) = [factory] ↔
          ∀ other ∈ resolved.glueFactories, JoinAlike other factory → other = factory)
  /-- The registrations unit holds one glue function for each factory, in their order. -/
  written : ∀ operations unit, registrationsUnitOf module resolved operations = .ok unit →
    List.Forall₂ (Wraps module) resolved.glueFactories unit.glue

/-- Each factory that needs glue gets a glue function of its own, and each registration through glue
names that of its service. Two factories have glue functions of one name exactly if their kept
segments join alike, which those of factories without underscores do only if the paths differ in
nothing but case. -/
theorem resolveModule_glue (module : ModuleDescriptor) (services : List ServiceDescriptor)
    (projectVerb : Option Verb) :
    GlueExact module services projectVerb (resolveModule module services projectVerb) ∧
      (∀ left right : FactoryMethod, left.glueName = right.glueName ↔ JoinAlike left right) ∧
      ∀ left right : FactoryMethod,
        (∀ segment ∈ keptSegments left, '_' ∉ segment.toList) →
        (∀ segment ∈ keptSegments right, '_' ∉ segment.toList) →
          (JoinAlike left right ↔ keptSegments left = keptSegments right) := by
  have distinct := nodup_glueFactories module services projectVerb
  have memIff := mem_glueFactories_iff module services projectVerb
  refine ⟨⟨distinct, ?_, ?_, ?_, ?_⟩, glueName_eq_iff, fun left right => joinAlike_iff⟩
  · intro factory
    simpa only [glueFactory?_eq_some_iff] using memIff factory
  · intro registration member
    rw [registrations_eq, List.mem_flatMap] at member
    obtain ⟨service, sorted, member⟩ := member
    exact ⟨service, List.mem_mergeSort.mp sorted, member⟩
  · intro service listed registration member name through
    have concerned := concerns_of_mem_resolveService module projectVerb member
    rw [implementation_of_mem_resolveService module projectVerb member,
      implementationOf_eq_glue_iff] at through
    obtain ⟨factory, needs, rfl⟩ := through
    have among := (memIff factory).mpr ⟨service, listed, concerned, needs⟩
    exact ⟨factory, among, (glueFactory?_eq_some_iff.mp needs).1, rfl,
      filter_glueName_eq_iff distinct among⟩
  · intro operations unit made
    exact wraps_of_registrationsUnitOf made

def postOffice : ModuleDescriptor :=
  .ofType (.of "crate" "PostOffice") "src/lib.rs"

def madeBy (name path : String) : ServiceDescriptor :=
  { ServiceDescriptor.ofImplementation (.of "crate" name) with
    registrations := [.ofLifetime .scoped]
    factory := some ⟨path, []⟩ }

def mail : List ServiceDescriptor :=
  [madeBy "Letter" "crate::Mail::create", madeBy "Parcel" "crate::mail::create"]

theorem resolveModule_glue_mail :
    (∀ segment ∈ keptSegments ⟨"crate::Mail::create", []⟩, '_' ∉ segment.toList) ∧
      (∀ segment ∈ keptSegments ⟨"crate::mail::create", []⟩, '_' ∉ segment.toList) ∧
      (resolveModule postOffice mail none).glueFactories.Nodup ∧
      JoinAlike ⟨"crate::Mail::create", []⟩ ⟨"crate::mail::create", []⟩ := by
  obtain ⟨exact, -, plain⟩ := resolveModule_glue postOffice mail none
  have left : ∀ segment ∈ keptSegments ⟨"crate::Mail::create", []⟩, '_' ∉ segment.toList := by
    decide +kernel
  have right : ∀ segment ∈ keptSegments ⟨"crate::mail::create", []⟩, '_' ∉ segment.toList := by
    decide +kernel
  have same : keptSegments ⟨"crate::Mail::create", []⟩ =
      keptSegments ⟨"crate::mail::create", []⟩ := by
    decide +kernel
  exact ⟨left, right, exact.nodup, (plain _ _ left right).mpr same⟩

/-- A function of a type and one of a namespace that is called alike share a glue function. -/
theorem glueName_shared :
    (resolveModule postOffice mail none).glueFactories =
        [⟨"crate::Mail::create", []⟩, ⟨"crate::mail::create", []⟩] ∧
      (resolveModule postOffice mail none).registrations.map (·.implementation) =
        [.glue "__wiregen_glue_mail_create", .glue "__wiregen_glue_mail_create"] ∧
      (FactoryMethod.mk "crate::Mail::create" []).glueName = "__wiregen_glue_mail_create" ∧
      (FactoryMethod.mk "crate::mail::create" []).glueName = "__wiregen_glue_mail_create" := by
  have concerned : mail.filter (concerns postOffice) = mail := by decide
  have sorted : mail.mergeSort precedes = mail := List.mergeSort_of_pairwise (by decide)
  rw [resolveModule_eq, concerned, sorted]
  decide +kernel

end Wiring.Plan
