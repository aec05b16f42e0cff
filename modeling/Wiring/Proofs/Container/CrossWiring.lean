import Wiring.Proofs.Container.Chains
import Wiring.Proofs.Container.Independence

/-!
# Cross-wired contracts

Cross-wiring forwards each interface to the service of one registration.  With a verb that always
registers, all of them come to this one registration, which is new, and other operations do not
change that; with a verb that may leave it out, they come to what the service comes to: see
`crossWire_shares`.
-/

set_option autoImplicit false

namespace Wiring.Container.Registrations

variable {before after registrations : Registrations} {registration other : Registration}
  {service : String} {key : Option String} {verb : Verb}

/-! ## The newest registration of a service -/

/-- A registration that was appended to registrations, some of which may have gone since: what
stands in front of it was there before, and nothing behind it is of its service. -/
structure Newest (before after : Registrations) (registration : Registration) : Prop where
  split : ∃ older newer, after = older ++ registration :: newer ∧ older.Sublist before ∧
    ∀ entry ∈ newer, entry.sameService registration = false

theorem newest_append (older : Registrations) (registration : Registration)
    (kept : older.Sublist before) : Newest before (older ++ [registration]) registration :=
  ⟨older, [], rfl, kept, by simp⟩

theorem newest_applyVerb (registers : verb = .add ∨ verb = .replace) :
    Newest registrations (registrations.applyVerb verb registration) registration := by
  rcases registers with rfl | rfl
  · exact newest_append registrations registration (List.Sublist.refl registrations)
  · exact newest_append _ registration List.eraseP_sublist

theorem Newest.append (newest : Newest before after registration)
    (apart : other.sameService registration = false) :
    Newest before (after ++ [other]) registration := by
  obtain ⟨older, newer, rfl, kept, hidden⟩ := newest
  refine ⟨older, newer ++ [other], by simp, kept, ?_⟩
  intro entry member
  rcases List.mem_append.mp member with old | new
  · exact hidden entry old
  · rw [List.mem_singleton.mp new]
    exact apart

theorem sameService_comm (left right : Registration) :
    left.sameService right = right.sameService left := by
  rw [Bool.eq_iff_iff]
  simp only [Registration.sameService, Registration.isFor, Bool.and_eq_true, beq_iff_eq]
  exact and_congr eq_comm eq_comm

/-- Removing a registration of another service takes it from in front or from behind. -/
theorem Newest.eraseP (newest : Newest before after registration)
    (apart : other.sameService registration = false) :
    Newest before (List.eraseP (·.sameService other) after) registration := by
  obtain ⟨older, newer, rfl, kept, hidden⟩ := newest
  cases inFront : older.any (·.sameService other) with
  | true =>
      obtain ⟨entry, member, same⟩ := List.any_eq_true.mp inFront
      have erased : List.eraseP (·.sameService other) (older ++ registration :: newer) =
          List.eraseP (·.sameService other) older ++ registration :: newer :=
        List.eraseP_append_left (by exact same) _ member
      rw [erased]
      exact ⟨_, newer, rfl, List.eraseP_sublist.trans kept, hidden⟩
  | false =>
      have differs : registration.sameService other = false := by
        rw [sameService_comm, apart]
      have missing : ∀ entry ∈ older, ¬(entry.sameService other = true) := by
        simpa using inFront
      rw [List.eraseP_append_right _ missing, List.eraseP_cons_of_neg (by simp [differs])]
      refine ⟨older, _, rfl, kept, ?_⟩
      intro entry member
      exact hidden entry (List.mem_of_mem_eraseP member)

/-- A step about another service leaves the newest registration of a service the newest. -/
theorem Newest.applyVerb (newest : Newest before after registration)
    (apart : other.sameService registration = false) (verb : Verb) :
    Newest before (after.applyVerb verb other) registration := by
  cases verb with
  | add => exact newest.append apart
  | tryAdd =>
      simp only [Registrations.applyVerb, tryAdd]
      split
      · exact newest
      · exact newest.append apart
  | tryEnumerable =>
      simp only [Registrations.applyVerb, tryAddEnumerable]
      split
      · exact newest
      · exact newest.append apart
  | replace => exact (newest.eraseP apart).append apart

theorem Newest.run (newest : Newest before after registration) {steps : List Step}
    (apart : ∀ step ∈ steps, step.targets registration.service registration.key = false) :
    Newest before (after.run steps) registration := by
  induction steps generalizing after with
  | nil => exact newest
  | cons step rest ih =>
      rw [List.forall_mem_cons] at apart
      exact ih (newest.applyVerb apart.1 step.verb) apart.2

theorem Newest.get? (newest : Newest before after registration) :
    after.get? registration.service registration.key = some registration := by
  obtain ⟨older, newer, rfl, -, hidden⟩ := newest
  have behind : find newer registration.service registration.key = [] := by
    rw [find, List.filter_eq_nil_iff]
    intro entry member
    simpa [Registration.sameService] using hidden entry member
  have itself : registration.isFor registration.service registration.key = true := by
    simp [Registration.isFor]
  have cut : older ++ registration :: newer = older ++ [registration] ++ newer := by simp
  rw [Registrations.get?, cut, find_append, find_append, behind, find_singleton_same itself]
  simp

/-! ## The forwards of an interface -/

/-- A registration that is made by a verb that always registers is the one that is looked up. -/
theorem get?_of_registers (registers : verb = .add ∨ verb = .replace) (count : Nat) :
    (registrations.run (List.replicate (count + 1) ⟨verb, registration⟩)).getLast? =
      some registration := by
  rw [List.replicate_succ', run_append]
  rcases registers with rfl | rfl <;> simp [run, applyVerb, add, replace]

theorem run_of_tries (tries : verb = .tryAdd ∨ verb = .tryEnumerable) (count : Nat) :
    run [] (List.replicate (count + 1) ⟨verb, registration⟩) = [registration] := by
  have known : registration.sameService registration = true := by
    simp [Registration.sameService, Registration.isFor]
  induction count with
  | zero => rcases tries with rfl | rfl <;> rfl
  | succ count ih =>
      rw [List.replicate_succ', run_append, ih]
      rcases tries with rfl | rfl <;> simp [run, applyVerb, tryAdd, tryAddEnumerable, known]

theorem filter_steps_crossWire {interface : String} (apart : interface ≠ registration.service)
    (interfaces : List String) (verb : Verb) :
    (Operation.crossWire registration interfaces verb).steps.filter
        (Step.targets interface registration.key) =
      List.replicate (interfaces.count interface) ⟨verb, registration.forwardFrom interface⟩ := by
  have first : Step.targets interface registration.key ⟨verb, registration⟩ = false := by
    simp [Step.targets, Registration.isFor, apart.symm]
  rw [Operation.steps, List.filter_cons_of_neg (by simp [first]), List.filter_map]
  have forwards : interfaces.filter (Step.targets interface registration.key ∘
      fun name => ⟨verb, registration.forwardFrom name⟩) = interfaces.filter (· == interface) := by
    apply List.filter_congr
    intro name _
    simp [Step.targets, Registration.isFor, Registration.forwardFrom]
  rw [forwards, List.filter_beq, List.map_replicate]

theorem find_crossWire {interface : String} (apart : interface ≠ registration.service)
    (interfaces : List String) (verb : Verb) :
    (registrations.crossWire registration interfaces verb).find interface registration.key =
      (registrations.find interface registration.key).run
        (List.replicate (interfaces.count interface)
          ⟨verb, registration.forwardFrom interface⟩) := by
  rw [← filter_steps_crossWire apart, ← find_run, ← apply_eq_run]
  rfl

theorem resolveTarget_of_forward {target : String} {found : Registration}
    (looked : registrations.get? service key = some found)
    (forward : found.implementation = .forward target) :
    registrations.resolveTarget service key = registrations.resolveTarget target key := by
  apply Option.ext
  intro final
  rw [resolveTarget_eq_some_iff_passes, resolveTarget_eq_some_iff_passes]
  refine and_congr_right fun last => ?_
  constructor
  · rintro ⟨first, looked', reaches⟩
    obtain rfl := Option.some.inj (looked.symm.trans looked')
    rcases reaches.cases_head with rfl | ⟨next, ⟨target', forward', foundNext⟩, onward⟩
    · exact absurd ⟨target, forward⟩ last
    · obtain rfl : target = target' := by simpa [forward] using forward'
      exact ⟨next, foundNext, onward⟩
  · rintro ⟨next, foundNext, onward⟩
    exact ⟨found, looked, onward.head ⟨target, forward, foundNext⟩⟩

/-! ## Sharing -/

/-- Interfaces come to one registration, which is the newest of its service. -/
structure Shares (before after : Registrations) (registration : Registration)
    (interfaces : List String) : Prop where
  newest : Newest before after registration
  forwarded : ∀ interface ∈ interfaces,
    after.get? interface registration.key = some (registration.forwardFrom interface)
  resolved : ∀ service ∈ registration.service :: interfaces,
    after.resolveTarget service registration.key = some registration

theorem shares_of_newest {interfaces : List String} (ends : ¬registration.Forwards)
    (newest : Newest before after registration)
    (forwarded : ∀ interface ∈ interfaces,
      after.get? interface registration.key = some (registration.forwardFrom interface)) :
    Shares before after registration interfaces := by
  have own : after.resolveTarget registration.service registration.key = some registration :=
    resolveTarget_eq_some_iff_passes.mpr ⟨ends, registration, newest.get?, .refl⟩
  refine ⟨newest, forwarded, ?_⟩
  intro service member
  rcases List.mem_cons.mp member with rfl | interface
  · exact own
  · exact (resolveTarget_of_forward (forwarded service interface) rfl).trans own

def Avoids (services : List String) (key : Option String) (operation : Operation) : Prop :=
  ∀ step ∈ operation.steps, ∀ service ∈ services, step.targets service key = false

instance decidableAvoids (services : List String) (key : Option String) :
    DecidablePred (Avoids services key) :=
  fun _ => inferInstanceAs (Decidable (∀ _ ∈ _, ∀ _ ∈ _, _))

theorem shares_applyAll {interfaces : List String} (ends : ¬registration.Forwards)
    (shares : Shares before after registration interfaces) {later : List Operation}
    (avoids : ∀ operation ∈ later,
      Avoids (registration.service :: interfaces) registration.key operation) :
    Shares before (after.applyAll later) registration interfaces := by
  have untouched : ∀ service ∈ registration.service :: interfaces,
      ∀ step ∈ later.flatMap Operation.steps, step.targets service registration.key = false := by
    intro service member step made
    obtain ⟨operation, listed, made⟩ := List.mem_flatMap.mp made
    exact avoids operation listed step made service member
  apply shares_of_newest ends
  · rw [applyAll_eq_run]
    exact shares.newest.run (untouched registration.service List.mem_cons_self)
  · intro interface member
    have none : (later.flatMap Operation.steps).filter
        (Step.targets interface registration.key) = [] := by
      rw [List.filter_eq_nil_iff]
      intro step made
      simp [untouched interface (List.mem_cons_of_mem _ member) step made]
    rw [Registrations.get?, applyAll_eq_run, find_run, none]
    exact shares.forwarded interface member

/-- Cross-wiring with a verb that always registers lets the service and all interfaces share the new
registration, whatever is done to other services later. With a verb that may leave it out, each
interface that was not registered comes to what the service comes to. -/
theorem crossWire_shares (registrations : Registrations) {registration : Registration}
    {interfaces : List String} (ends : ¬registration.Forwards)
    (apart : registration.service ∉ interfaces) :
    (∀ verb, verb = .add ∨ verb = .replace → ∀ later : List Operation,
      (∀ operation ∈ later,
        Avoids (registration.service :: interfaces) registration.key operation) →
      Shares registrations ((registrations.crossWire registration interfaces verb).applyAll later)
        registration interfaces) ∧
    ∀ verb, verb = .tryAdd ∨ verb = .tryEnumerable → ∀ interface ∈ interfaces,
      registrations.contains interface registration.key = false →
        (registrations.crossWire registration interfaces verb).get? interface registration.key =
            some (registration.forwardFrom interface) ∧
          (registrations.crossWire registration interfaces verb).resolveTarget interface
              registration.key =
            (registrations.crossWire registration interfaces verb).resolveTarget
              registration.service registration.key := by
  have other : ∀ interface ∈ interfaces, interface ≠ registration.service := by
    rintro interface member rfl
    exact apart member
  have counted : ∀ interface ∈ interfaces, ∃ count, interfaces.count interface = count + 1 := by
    intro interface member
    exact ⟨interfaces.count interface - 1, by have := List.count_pos_iff.mpr member; omega⟩
  constructor
  · intro verb registers later avoids
    refine shares_applyAll ends (shares_of_newest ends ?_ ?_) avoids
    · have forwards : ∀ step ∈ interfaces.map fun interface =>
          Step.mk verb (registration.forwardFrom interface),
          step.targets registration.service registration.key = false := by
        intro step made
        obtain ⟨interface, member, rfl⟩ := List.mem_map.mp made
        simp [Step.targets, Registration.isFor, Registration.forwardFrom, other interface member]
      have own : Newest registrations (registrations.applyVerb verb registration) registration :=
        newest_applyVerb registers
      have made := own.run forwards
      rwa [run, List.foldl_map] at made
    · intro interface member
      obtain ⟨count, counts⟩ := counted interface member
      rw [Registrations.get?, find_crossWire (other interface member), counts]
      exact get?_of_registers registers count
  · intro verb tries interface member unknown
    obtain ⟨count, counts⟩ := counted interface member
    -- An interface may be listed twice: the first forward keeps the others out.
    have nothing : registrations.find interface registration.key = [] := by
      simpa [contains, Registrations.get?] using unknown
    have found : (registrations.crossWire registration interfaces verb).get? interface
        registration.key = some (registration.forwardFrom interface) := by
      rw [Registrations.get?, find_crossWire (other interface member), counts, nothing,
        run_of_tries tries]
      rfl
    exact ⟨found, resolveTarget_of_forward found rfl⟩

def quartz : Registration :=
  ⟨"Quartz", none, .type "Quartz", .singleton⟩

theorem crossWire_shares_clocks :
    ¬quartz.Forwards ∧ quartz.service ∉ ["Clock", "Now", "Clock"] ∧
      Avoids ["Quartz", "Clock", "Now", "Clock"] none keyedQuartz ∧
      Shares clocks ((clocks.crossWire quartz ["Clock", "Now", "Clock"] .replace).applyAll
        [keyedQuartz]) quartz ["Clock", "Now", "Clock"] ∧
      clocks.contains "Now" none = false ∧
      (clocks.crossWire quartz ["Clock", "Now", "Clock"] .tryAdd).resolveTarget "Now" none =
        (clocks.crossWire quartz ["Clock", "Now", "Clock"] .tryAdd).resolveTarget "Quartz"
          none := by
  have ends : ¬quartz.Forwards := by decide
  have apart : quartz.service ∉ ["Clock", "Now", "Clock"] := by decide
  have avoids : Avoids ["Quartz", "Clock", "Now", "Clock"] none keyedQuartz := by decide
  have unknown : clocks.contains "Now" none = false := by decide
  obtain ⟨registered, tried⟩ := crossWire_shares clocks ends apart
  refine ⟨ends, apart, avoids, registered .replace (.inr rfl) [keyedQuartz] ?_, unknown, ?_⟩
  · intro operation member
    rw [List.mem_singleton.mp member]
    exact avoids
  · exact (tried .tryAdd (.inl rfl) "Now" (by decide) unknown).2

-- A service that was forwarded to one of its interfaces comes to nothing, and so does that one.
example :
    (crossWire [⟨"Quartz", none, .forward "Now", .scoped⟩] quartz ["Now"] .tryAdd).resolveTarget
      "Now" none = none := by
  decide

end Wiring.Container.Registrations
