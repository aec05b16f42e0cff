import Mathlib.Logic.Relation
import Wiring.Proofs.Container.Forwards

/-!
# Registrations of different services

An operation is a number of steps, each of which is about one service under one key.  What is
registered for a service under a key depends on the steps about this pair only: see
`applyAll_independent`.
-/

set_option autoImplicit false

namespace Wiring.Container

/-! ## Steps -/

/-- One registration made by a verb. -/
structure Step where
  verb : Verb
  registration : Registration
deriving DecidableEq, Repr

def Step.targets (service : String) (key : Option String) (step : Step) : Bool :=
  step.registration.isFor service key

/-- The steps of an operation. Cross-wiring makes its registration, and then a forward from each
interface. -/
def Operation.steps : Operation → List Step
  | .addStandard registration => [⟨.add, registration⟩]
  | .addKeyed registration => [⟨.add, registration⟩]
  | .tryAdd registration => [⟨.tryAdd, registration⟩]
  | .tryAddEnumerable registration => [⟨.tryEnumerable, registration⟩]
  | .replace registration => [⟨.replace, registration⟩]
  | .crossWire registration interfaces verb =>
      ⟨verb, registration⟩ ::
        interfaces.map fun interface => ⟨verb, registration.forwardFrom interface⟩

namespace Registrations

variable {registrations : Registrations} {service : String} {key : Option String}

def run (registrations : Registrations) (steps : List Step) : Registrations :=
  steps.foldl (fun found step => found.applyVerb step.verb step.registration) registrations

theorem run_append (registrations : Registrations) (first second : List Step) :
    registrations.run (first ++ second) = (registrations.run first).run second :=
  List.foldl_append

theorem apply_eq_run (registrations : Registrations) (operation : Operation) :
    registrations.apply operation = registrations.run operation.steps := by
  cases operation with
  | addStandard registration | addKeyed registration | tryAdd registration
  | tryAddEnumerable registration | replace registration => rfl
  | crossWire registration interfaces verb =>
      rw [run, Operation.steps, List.foldl_cons, List.foldl_map]
      rfl

theorem applyAll_eq_run (registrations : Registrations) (operations : List Operation) :
    registrations.applyAll operations = registrations.run (operations.flatMap Operation.steps) := by
  induction operations generalizing registrations with
  | nil => rfl
  | cons operation rest ih =>
      calc registrations.applyAll (operation :: rest)
          = (registrations.apply operation).applyAll rest := rfl
        _ = (registrations.run operation.steps).run (rest.flatMap Operation.steps) := by
            rw [apply_eq_run, ih]
        _ = registrations.run ((operation :: rest).flatMap Operation.steps) := by
            rw [List.flatMap_cons, run_append]

/-! ## One step -/

theorem find_append (left right : Registrations) :
    find (left ++ right) service key = left.find service key ++ right.find service key :=
  List.filter_append left right

theorem find_singleton_same {registration : Registration}
    (same : registration.isFor service key = true) :
    find [registration] service key = [registration] := by
  simp [find, same]

theorem find_singleton_other {registration : Registration}
    (apart : registration.isFor service key = false) : find [registration] service key = [] := by
  simp [find, apart]

theorem sameService_of_isFor {registration : Registration}
    (same : registration.isFor service key = true) (existing : Registration) :
    existing.sameService registration = existing.isFor service key := by
  simp only [Registration.isFor, Bool.and_eq_true, beq_iff_eq] at same
  obtain ⟨rfl, rfl⟩ := same
  rfl

theorem isFor_of_sameService {existing registration : Registration}
    (same : existing.sameService registration = true) :
    existing.isFor service key = registration.isFor service key := by
  simp only [Registration.sameService, Registration.isFor, Bool.and_eq_true, beq_iff_eq] at same
  rw [Registration.isFor, Registration.isFor, same.1, same.2]

/-- A step does to the registrations of its service what it would do to them alone. -/
theorem find_applyVerb_same (registrations : Registrations) {registration : Registration}
    (same : registration.isFor service key = true) (verb : Verb) :
    (registrations.applyVerb verb registration).find service key =
      (registrations.find service key).applyVerb verb registration := by
  have alone := find_singleton_same same
  have services := sameService_of_isFor same
  cases verb with
  | add =>
      simp only [applyVerb, add]
      rw [find_append, alone]
  | tryAdd =>
      have known : (registrations.find service key).any (·.sameService registration) =
          registrations.any (·.sameService registration) := by
        simp only [find, List.any_filter, services, Bool.and_self]
      simp only [applyVerb, tryAdd, known]
      split
      · rfl
      · rw [find_append, alone]
  | tryEnumerable =>
      have known : ((registrations.find service key).any fun existing =>
            existing.sameService registration &&
              existing.implementation == registration.implementation) =
          registrations.any fun existing =>
            existing.sameService registration &&
              existing.implementation == registration.implementation := by
        simp only [find, List.any_filter, services, ← Bool.and_assoc, Bool.and_self]
      simp only [applyVerb, tryAddEnumerable, known]
      split
      · rfl
      · rw [find_append, alone]
  | replace =>
      have erased : find (registrations.eraseP (·.sameService registration)) service key =
          (registrations.find service key).eraseP (·.sameService registration) := by
        simp only [find, List.eraseP_filter, services, Bool.and_self]
      simp only [applyVerb, replace]
      rw [find_append, alone, erased]

theorem find_eraseP_other (registrations : Registrations) {registration : Registration}
    (apart : registration.isFor service key = false) :
    find (registrations.eraseP (·.sameService registration)) service key =
      registrations.find service key := by
  rcases List.exists_or_eq_self_of_eraseP (·.sameService registration) registrations with
    unchanged | ⟨removed, front, back, -, same, split, erased⟩
  · rw [unchanged]
  · have other : removed.isFor service key = false := (isFor_of_sameService same).trans apart
    rw [erased, split]
    simp [find, other]

theorem find_applyVerb_other (registrations : Registrations) {registration : Registration}
    (apart : registration.isFor service key = false) (verb : Verb) :
    (registrations.applyVerb verb registration).find service key =
      registrations.find service key := by
  have appended : find (registrations ++ [registration]) service key =
      registrations.find service key := by
    rw [find_append, find_singleton_other apart, List.append_nil]
  cases verb with
  | add => exact appended
  | tryAdd =>
      simp only [applyVerb, tryAdd]
      split
      · rfl
      · exact appended
  | tryEnumerable =>
      simp only [applyVerb, tryAddEnumerable]
      split
      · rfl
      · exact appended
  | replace =>
      simp only [applyVerb, replace]
      rw [find_append, find_singleton_other apart, List.append_nil, find_eraseP_other _ apart]

/-! ## Many steps -/

theorem find_run (registrations : Registrations) (steps : List Step) (service : String)
    (key : Option String) :
    (registrations.run steps).find service key =
      (registrations.find service key).run (steps.filter (Step.targets service key)) := by
  induction steps generalizing registrations with
  | nil => rfl
  | cons step rest ih =>
      have next := ih (registrations.applyVerb step.verb step.registration)
      cases about : step.targets service key with
      | true =>
          rw [find_applyVerb_same registrations about] at next
          rw [List.filter_cons_of_pos about]
          exact next
      | false =>
          rw [find_applyVerb_other registrations about] at next
          rw [List.filter_cons_of_neg (by simp [about])]
          exact next

theorem find_applyAll_congr {operations others : List Operation} {service : String}
    {key : Option String}
    (same : (operations.flatMap Operation.steps).filter (Step.targets service key) =
      (others.flatMap Operation.steps).filter (Step.targets service key)) :
    (registrations.applyAll operations).find service key =
      (registrations.applyAll others).find service key := by
  rw [applyAll_eq_run, applyAll_eq_run, find_run, find_run, same]

/-! ## Lookups -/

/-- All lookups of a service under a key give the same in two containers. -/
structure SameLookups (left right : Registrations) (service : String) (key : Option String) :
    Prop where
  find : left.find service key = right.find service key
  get? : left.get? service key = right.get? service key
  contains : left.contains service key = right.contains service key
  resolveTarget : left.resolveTarget service key = right.resolveTarget service key

/-- Where the registrations under a key are the same, so are all lookups under it. -/
theorem sameLookups_of_find {left right : Registrations} {key : Option String}
    (same : ∀ service, left.find service key = right.find service key) (service : String) :
    SameLookups left right service key := by
  have found : ∀ service, left.get? service key = right.get? service key := by
    intro service
    rw [Registrations.get?, same, ← Registrations.get?]
  refine ⟨same service, found service, ?_, resolveTarget_congr found service⟩
  rw [Registrations.contains, found, ← Registrations.contains]

/-- What lookups under a key answer is registered under this key. -/
structure Visible (registrations : Registrations) (service : String) (key : Option String)
    (registration : Registration) : Prop where
  find : registration ∈ registrations.find service key →
    registration ∈ registrations ∧ registration.service = service ∧ registration.key = key
  get? : registrations.get? service key = some registration →
    registration ∈ registrations ∧ registration.service = service ∧ registration.key = key
  resolveTarget : registrations.resolveTarget service key = some registration →
    registration ∈ registrations ∧ registration.key = key

theorem visible (registrations : Registrations) (service : String) (key : Option String)
    (registration : Registration) : Visible registrations service key registration := by
  refine ⟨?_, mem_of_get?, mem_of_resolveTarget⟩
  intro member
  simpa [Registrations.find, Registration.isFor] using member

end Registrations

/-! ## Operations -/

namespace Operation

def key : Operation → Option String
  | .addStandard registration => registration.key
  | .addKeyed registration => registration.key
  | .tryAdd registration => registration.key
  | .tryAddEnumerable registration => registration.key
  | .replace registration => registration.key
  | .crossWire registration _ _ => registration.key

theorem key_of_mem_steps {operation : Operation} {step : Step} (member : step ∈ operation.steps) :
    step.registration.key = operation.key := by
  cases operation with
  | addStandard registration | addKeyed registration | tryAdd registration
  | tryAddEnumerable registration | replace registration =>
      rw [List.mem_singleton.mp member]
      rfl
  | crossWire registration interfaces verb =>
      rcases List.mem_cons.mp member with rfl | forward
      · rfl
      · obtain ⟨interface, -, rfl⟩ := List.mem_map.mp forward
        rfl

/-- No step of the one operation is about a service and key that a step of the other is about. -/
def Apart (first second : Operation) : Prop :=
  ∀ step ∈ first.steps, ∀ other ∈ second.steps,
    step.registration.sameService other.registration = false

instance decidableApart (first second : Operation) : Decidable (first.Apart second) :=
  inferInstanceAs (Decidable (∀ _ ∈ _, ∀ _ ∈ _, _))

/-- Two neighbours that are about different services change places. -/
inductive Swapped : List Operation → List Operation → Prop where
  | swap (before after : List Operation) {first second : Operation} (apart : first.Apart second) :
      Swapped (before ++ first :: second :: after) (before ++ second :: first :: after)

/-- Operations about different services change places, any number of times. -/
def Reordered : List Operation → List Operation → Prop :=
  Relation.ReflTransGen Swapped

theorem filter_steps_other {operation : Operation} {service : String} {key : Option String}
    (apart : operation.key ≠ key) :
    operation.steps.filter (Step.targets service key) = [] := by
  rw [List.filter_eq_nil_iff]
  intro step member
  simp [Step.targets, Registration.isFor, key_of_mem_steps member, apart]

/-- Of two operations about different services, one has no step about a given pair. -/
theorem Apart.filter_steps {first second : Operation} (apart : first.Apart second)
    (service : String) (key : Option String) :
    first.steps.filter (Step.targets service key) = [] ∨
      second.steps.filter (Step.targets service key) = [] := by
  cases about : first.steps.any (Step.targets service key) with
  | false =>
      left
      rw [List.filter_eq_nil_iff]
      intro step member
      simpa using List.any_eq_false.mp about step member
  | true =>
      right
      obtain ⟨step, member, targets⟩ := List.any_eq_true.mp about
      rw [List.filter_eq_nil_iff]
      intro other otherMember otherTargets
      have same := apart step member other otherMember
      rw [Registrations.sameService_of_isFor otherTargets] at same
      rw [Step.targets, same] at targets
      contradiction

theorem Swapped.filter_steps {operations others : List Operation}
    (swapped : Swapped operations others) (service : String) (key : Option String) :
    (operations.flatMap steps).filter (Step.targets service key) =
      (others.flatMap steps).filter (Step.targets service key) := by
  cases swapped with
  | swap before after apart =>
      rcases apart.filter_steps service key with none | none <;>
        simp [none]

theorem Reordered.filter_steps {operations others : List Operation}
    (reordered : Reordered operations others) (service : String) (key : Option String) :
    (operations.flatMap steps).filter (Step.targets service key) =
      (others.flatMap steps).filter (Step.targets service key) := by
  induction reordered with
  | refl => rfl
  | tail _ swapped ih => exact ih.trans (swapped.filter_steps service key)

end Operation

namespace Registrations

/-- The registrations of a service under a key after any operations are what the steps about this
pair make of those before. So whatever a lookup under a key answers is registered under this key,
operations under other keys change no lookup, and neither does changing the places of operations
that are about different services. -/
theorem applyAll_independent (registrations : Registrations) :
    (∀ operations service key,
      (registrations.applyAll operations).find service key =
        (registrations.find service key).run
          ((operations.flatMap Operation.steps).filter (Step.targets service key))) ∧
    (∀ operations service key registration,
      Visible (registrations.applyAll operations) service key registration) ∧
    (∀ operations key, (∀ operation ∈ operations, Operation.key operation ≠ key) →
      ∀ service, SameLookups (registrations.applyAll operations) registrations service key) ∧
    ∀ operations others, Operation.Reordered operations others → ∀ service key,
      SameLookups (registrations.applyAll operations) (registrations.applyAll others)
        service key := by
  refine ⟨?_, ?_, ?_, ?_⟩
  · intro operations service key
    rw [applyAll_eq_run, find_run]
  · intro operations service key registration
    exact visible _ service key registration
  · intro operations key apart
    apply sameLookups_of_find
    intro service
    have none : (operations.flatMap Operation.steps).filter (Step.targets service key) = [] := by
      rw [List.filter_flatMap, List.flatMap_eq_nil_iff]
      intro operation member
      exact Operation.filter_steps_other (apart operation member)
    rw [applyAll_eq_run, find_run, none]
    rfl
  · intro operations others reordered service key
    apply sameLookups_of_find
    intro service
    exact find_applyAll_congr (reordered.filter_steps service key)

def clocks : Registrations :=
  [⟨"Clock", none, .type "Wall", .singleton⟩, ⟨"Clock", some "utc", .type "Atomic", .singleton⟩,
    ⟨"Clock", none, .type "Sun", .scoped⟩]

def wiredQuartz : Operation :=
  .crossWire ⟨"Quartz", none, .type "Quartz", .singleton⟩ ["Clock", "Quartz", "Clock"] .replace

def keyedQuartz : Operation :=
  .tryAddEnumerable ⟨"Clock", some "utc", .type "Quartz", .singleton⟩

theorem applyAll_independent_clocks :
    (clocks.applyAll [wiredQuartz, keyedQuartz]).find "Clock" none =
        [⟨"Clock", none, .forward "Quartz", .singleton⟩,
          ⟨"Clock", none, .forward "Quartz", .singleton⟩] ∧
      wiredQuartz.key ≠ some "utc" ∧
      SameLookups (clocks.applyAll [wiredQuartz]) clocks "Clock" (some "utc") ∧
      wiredQuartz.Apart keyedQuartz ∧
      SameLookups (clocks.applyAll [wiredQuartz, keyedQuartz])
        (clocks.applyAll [keyedQuartz, wiredQuartz]) "Clock" (some "utc") := by
  have otherKey : wiredQuartz.key ≠ some "utc" := by decide
  have apart : wiredQuartz.Apart keyedQuartz := by decide
  have reordered : Operation.Reordered [wiredQuartz, keyedQuartz] [keyedQuartz, wiredQuartz] :=
    Relation.ReflTransGen.single (.swap [] [] apart)
  obtain ⟨projected, -, framed, swapped⟩ := applyAll_independent clocks
  refine ⟨?_, otherKey, ?_, apart, swapped _ _ reordered "Clock" (some "utc")⟩
  · exact (projected _ "Clock" none).trans (by decide)
  · refine framed [wiredQuartz] (some "utc") ?_ "Clock"
    intro operation member
    rwa [List.mem_singleton.mp member]

end Registrations

end Wiring.Container
