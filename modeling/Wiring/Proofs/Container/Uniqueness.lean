import Mathlib.Data.List.Induction
import Wiring.Proofs.Container.Independence

/-!
# How many registrations a service has

Where only verbs that try or replace occur, a service that has at most one registration under a key
keeps at most one, and where only verbs that try occur, so does each implementation of it, and
nothing goes.  Replacing changes no number but that of a service that had none: see
`verbs_keep_atMostOne`.
-/

set_option autoImplicit false

namespace Wiring.Container

/-- The verb of an operation. Cross-wiring counts by the verb that it is given. -/
def Operation.verb : Operation → Verb
  | .addStandard _ => .add
  | .addKeyed _ => .add
  | .tryAdd _ => .tryAdd
  | .tryAddEnumerable _ => .tryEnumerable
  | .replace _ => .replace
  | .crossWire _ _ verb => verb

def Operation.IsAbout (service : String) (key : Option String) (operation : Operation) : Prop :=
  ∃ step ∈ operation.steps, step.targets service key = true

theorem Operation.verb_of_mem_steps {operation : Operation} {step : Step}
    (member : step ∈ operation.steps) : step.verb = operation.verb := by
  cases operation with
  | addStandard registration | addKeyed registration | tryAdd registration
  | tryAddEnumerable registration | replace registration =>
      rw [List.mem_singleton.mp member]
      rfl
  | crossWire registration interfaces verb =>
      rcases List.mem_cons.mp member with rfl | forward
      · rfl
      · obtain ⟨interface, -, rfl⟩ := List.mem_map.mp forward
        rfl

namespace Registrations

variable {registrations : Registrations} {registration : Registration} {service : String}
  {key : Option String} {verb : Verb}

/-! ## The registrations of one service -/

/-- How many registrations of a service under a key have an implementation. -/
def countOf (registrations : Registrations) (service : String) (key : Option String)
    (implementation : Implementation) : Nat :=
  (registrations.find service key).countP fun registration =>
    registration.implementation == implementation

/-- Every service has at most one registration under a key. -/
def AtMostOne (registrations : Registrations) : Prop :=
  ∀ service key, (registrations.find service key).length ≤ 1

/-- Every implementation is registered at most once for a service under a key. -/
def AtMostOneEach (registrations : Registrations) : Prop :=
  ∀ service key implementation, registrations.countOf service key implementation ≤ 1

/-- A list holds at most one of what no two of its entries are. -/
theorem length_filter_le_one {isOne : Registration → Bool}
    (apart : registrations.Pairwise fun first later => ¬(isOne first = true ∧ isOne later = true)) :
    (registrations.filter isOne).length ≤ 1 := by
  have within := apart.filter isOne
  match found : registrations.filter isOne with
  | [] => exact Nat.zero_le 1
  | [_] => exact Nat.le_refl 1
  | first :: second :: rest =>
      have ones : ∀ entry ∈ registrations.filter isOne, isOne entry = true :=
        fun entry member => (List.mem_filter.mp member).2
      rw [found] at within ones
      have differ := List.rel_of_pairwise_cons within List.mem_cons_self
      exact absurd ⟨ones first (by simp), ones second (by simp)⟩ differ

theorem atMostOne_of_pairwise
    (apart : registrations.Pairwise fun first later => first.sameService later = false) :
    AtMostOne registrations := by
  intro service key
  apply length_filter_le_one
  refine apart.imp ?_
  rintro first later differ ⟨firstFor, laterFor⟩
  rw [sameService_of_isFor laterFor, firstFor] at differ
  contradiction

theorem atMostOneEach_of_pairwise
    (apart : registrations.Pairwise fun first later => first.sameService later = true →
      first.implementation ≠ later.implementation) :
    AtMostOneEach registrations := by
  intro service key implementation
  rw [countOf, List.countP_eq_length_filter, find, List.filter_filter]
  apply length_filter_le_one
  refine apart.imp ?_
  intro first later differ ones
  simp only [Bool.and_eq_true, beq_iff_eq] at ones
  obtain ⟨⟨firstMakes, firstFor⟩, laterMakes, laterFor⟩ := ones
  rw [← sameService_of_isFor laterFor] at firstFor
  exact differ firstFor (firstMakes.trans laterMakes.symm)

theorem sameService_of_mem_find {entry : Registration}
    (same : registration.isFor service key = true)
    (member : entry ∈ registrations.find service key) :
    entry.sameService registration = true := by
  rw [sameService_of_isFor same]
  exact (List.mem_filter.mp member).2

theorem find_tryAdd_same (registrations : Registrations)
    (same : registration.isFor service key = true) :
    (registrations.tryAdd registration).find service key =
      if registrations.find service key = [] then [registration]
      else registrations.find service key := by
  have alone : (registrations.tryAdd registration).find service key =
      (registrations.find service key).tryAdd registration :=
    find_applyVerb_same registrations same .tryAdd
  rw [alone, tryAdd]
  cases found : registrations.find service key with
  | nil => rfl
  | cons first rest =>
      have known : first.sameService registration = true :=
        sameService_of_mem_find same (by rw [found]; exact List.mem_cons_self)
      simp [known]

theorem find_replace_same (registrations : Registrations)
    (same : registration.isFor service key = true) :
    (registrations.replace registration).find service key =
      (registrations.find service key).tail ++ [registration] := by
  have alone : (registrations.replace registration).find service key =
      (registrations.find service key).replace registration :=
    find_applyVerb_same registrations same .replace
  rw [alone, replace]
  cases found : registrations.find service key with
  | nil => rfl
  | cons first rest =>
      have known : first.sameService registration = true :=
        sameService_of_mem_find same (by rw [found]; exact List.mem_cons_self)
      rw [List.eraseP_cons_of_pos (by exact known), List.tail_cons]

/-! ## One step -/

/-- Trying and replacing leave the number of registrations of a service as it is, unless it was
zero. -/
theorem length_find_applyVerb_same (same : registration.isFor service key = true)
    (single : verb = .tryAdd ∨ verb = .replace) :
    ((registrations.applyVerb verb registration).find service key).length =
      max 1 (registrations.find service key).length := by
  rcases single with rfl | rfl
  · have found := find_tryAdd_same registrations same
    rw [applyVerb, found]
    split
    next none => simp [none]
    next some =>
      have positive := List.length_pos_iff.mpr some
      omega
  · have found := find_replace_same registrations same
    rw [applyVerb, found, List.length_append, List.length_tail, List.length_singleton]
    omega

theorem AtMostOne.applyVerb (unique : AtMostOne registrations)
    (single : verb = .tryAdd ∨ verb = .replace) (registration : Registration) :
    AtMostOne (registrations.applyVerb verb registration) := by
  intro service key
  have before := unique service key
  cases about : registration.isFor service key with
  | true =>
      rw [length_find_applyVerb_same about single]
      exact Nat.max_le.mpr ⟨Nat.le_refl 1, before⟩
  | false =>
      rw [find_applyVerb_other registrations about]
      exact before

/-- A registration that is tried as one of several is left out if its implementation is there. -/
theorem countOf_tryAddEnumerable_le (registrations : Registrations)
    (same : registration.isFor service key = true) (implementation : Implementation) :
    (registrations.tryAddEnumerable registration).countOf service key implementation ≤
      max 1 (registrations.countOf service key implementation) := by
  have alone : (registrations.tryAddEnumerable registration).find service key =
      (registrations.find service key).tryAddEnumerable registration :=
    find_applyVerb_same registrations same .tryEnumerable
  rw [countOf, alone, tryAddEnumerable]
  split
  next => exact Nat.le_max_right _ _
  next fresh =>
    rw [List.countP_append, List.countP_singleton, ← countOf]
    split
    next asked =>
      have none : registrations.countOf service key implementation = 0 := by
        rw [countOf, List.countP_eq_zero]
        intro entry member equal
        apply fresh
        rw [List.any_eq_true]
        have known := sameService_of_mem_find same member
        simp only [beq_iff_eq] at asked equal
        exact ⟨entry, member, by simp [known, asked, equal]⟩
      omega
    next => omega

theorem AtMostOneEach.applyVerb (unique : AtMostOneEach registrations)
    (tries : verb = .tryAdd ∨ verb = .tryEnumerable) (registration : Registration) :
    AtMostOneEach (registrations.applyVerb verb registration) := by
  intro service key implementation
  have before := unique service key implementation
  cases about : registration.isFor service key with
  | false =>
      rw [countOf, find_applyVerb_other registrations about]
      exact before
  | true =>
      rcases tries with rfl | rfl
      · have found := find_tryAdd_same registrations about
        rw [countOf, Registrations.applyVerb, found]
        split
        next => exact List.countP_le_length
        next => exact before
      · have most := countOf_tryAddEnumerable_le registrations about implementation
        rw [Registrations.applyVerb]
        omega

/-- A verb that does not replace only appends. -/
theorem prefix_applyVerb (tries : verb ≠ .replace) (registration : Registration) :
    registrations <+: registrations.applyVerb verb registration := by
  have appended : registrations <+: registrations ++ [registration] :=
    List.prefix_append registrations [registration]
  cases verb with
  | add => exact appended
  | tryAdd =>
      simp only [applyVerb, tryAdd]
      split
      · exact List.prefix_rfl
      · exact appended
  | tryEnumerable =>
      simp only [applyVerb, tryAddEnumerable]
      split
      · exact List.prefix_rfl
      · exact appended
  | replace => contradiction

/-! ## One operation -/

theorem apply_induction {holds : Registrations → Prop} {operation : Operation}
    (step : ∀ found registration, holds found →
      holds (found.applyVerb operation.verb registration))
    (start : holds registrations) : holds (registrations.apply operation) := by
  rw [apply_eq_run]
  have verbs : ∀ made ∈ operation.steps, made.verb = operation.verb :=
    fun made member => Operation.verb_of_mem_steps member
  generalize operation.steps = steps at verbs
  induction steps generalizing registrations with
  | nil => exact start
  | cons first rest ih =>
      rw [List.forall_mem_cons] at verbs
      have next : holds (registrations.applyVerb first.verb first.registration) := by
        rw [verbs.1]
        exact step registrations first.registration start
      exact ih next verbs.2

theorem prefix_apply {operation : Operation} (tries : operation.verb ≠ .replace) :
    registrations <+: registrations.apply operation :=
  apply_induction
    (fun _ registration before => before.trans (prefix_applyVerb tries registration))
    List.prefix_rfl

/-! ## Replacing -/

/-- What an operation that replaces makes of registrations. -/
structure Replaces (before after : Registrations) (operation : Operation) : Prop where
  kept : ∀ service key, operation.IsAbout service key → 0 < (before.find service key).length →
    (after.find service key).length = (before.find service key).length
  made : ∀ service key, operation.IsAbout service key → (before.find service key).length = 0 →
    (after.find service key).length = 1
  others : ∀ service key, ¬operation.IsAbout service key →
    after.find service key = before.find service key
  /-- What was there before stands in front as it stood, and behind it what is new. -/
  ordered : ∃ older newer, after = older ++ newer ∧ older.Sublist before ∧
    newer.Sublist (operation.steps.map (·.registration)) ∧
    newer.getLast? = (operation.steps.map (·.registration)).getLast?

theorem length_find_run_replace (registrations : Registrations) {steps : List Step}
    (verbs : ∀ step ∈ steps, step.verb = .replace) :
    ((registrations.run steps).find service key).length =
      if steps.any (Step.targets service key) then max 1 (registrations.find service key).length
      else (registrations.find service key).length := by
  induction steps generalizing registrations with
  | nil => rfl
  | cons first rest ih =>
      rw [List.forall_mem_cons] at verbs
      have later := ih (registrations.applyVerb first.verb first.registration) verbs.2
      rw [verbs.1] at later
      have split : registrations.run (first :: rest) =
          (registrations.applyVerb .replace first.registration).run rest := by
        rw [← verbs.1]
        rfl
      rw [split, later]
      cases about : first.targets service key with
      | true =>
          have twice : max 1 (max 1 (registrations.find service key).length) =
              max 1 (registrations.find service key).length := by omega
          rw [length_find_applyVerb_same about (.inr rfl), twice]
          simp [about]
      | false =>
          rw [find_applyVerb_other registrations about]
          simp [about]

/-- Of what stood there, each replacement takes one entry at most, and its own comes last. -/
theorem exists_older_run_replace {steps : List Step}
    (verbs : ∀ step ∈ steps, step.verb = .replace) :
    ∃ older newer, registrations.run steps = older ++ newer ∧ older.Sublist registrations ∧
      newer.Sublist (steps.map (·.registration)) ∧
      newer.getLast? = (steps.map (·.registration)).getLast? := by
  induction steps using List.reverseRecOn with
  | nil => exact ⟨registrations, [], by simp [run], List.Sublist.refl _, List.Sublist.refl _, rfl⟩
  | append_singleton front last ih =>
      rw [List.forall_mem_append] at verbs
      obtain ⟨older, newer, made, kept, fresh, -⟩ := ih verbs.1
      have replaces : last.verb = .replace := verbs.2 last (List.mem_singleton_self last)
      have step : registrations.run (front ++ [last]) =
          List.eraseP (·.sameService last.registration) (older ++ newer) ++
            [last.registration] := by
        rw [run_append, made, run, List.foldl_cons, List.foldl_nil, replaces]
        rfl
      rw [step, List.map_append, List.eraseP_append]
      split
      · refine ⟨_, newer ++ [last.registration], List.append_assoc .., ?_, ?_, by simp⟩
        · exact List.eraseP_sublist.trans kept
        · exact fresh.append (List.Sublist.refl _)
      · refine ⟨older, _ ++ [last.registration], List.append_assoc .., kept, ?_, by simp⟩
        exact (List.eraseP_sublist.trans fresh).append (List.Sublist.refl _)

theorem replaces_apply {operation : Operation} (replacing : operation.verb = .replace) :
    Replaces registrations (registrations.apply operation) operation := by
  have verbs : ∀ step ∈ operation.steps, step.verb = .replace :=
    fun step member => (Operation.verb_of_mem_steps member).trans replacing
  have counted : ∀ service key, operation.IsAbout service key →
      ((registrations.apply operation).find service key).length =
        max 1 (registrations.find service key).length := by
    intro service key about
    rw [apply_eq_run, length_find_run_replace registrations verbs,
      if_pos (List.any_eq_true.mpr about)]
  refine ⟨?_, ?_, ?_, ?_⟩
  · intro service key about positive
    rw [counted service key about, Nat.max_eq_right positive]
  · intro service key about none
    rw [counted service key about, none]
    rfl
  · intro service key apart
    have none : operation.steps.filter (Step.targets service key) = [] := by
      rw [List.filter_eq_nil_iff]
      intro step member targets
      exact apart ⟨step, member, targets⟩
    rw [apply_eq_run, find_run, none]
    rfl
  · rw [apply_eq_run]
    exact exists_older_run_replace verbs

/-! ## States -/

def states (registrations : Registrations) (operations : List Operation) : List Registrations :=
  operations.scanl apply registrations

theorem states_induction {holds : Registrations → Prop} {operations : List Operation}
    (step : ∀ operation ∈ operations, ∀ found registration, holds found →
      holds (found.applyVerb operation.verb registration))
    (start : holds registrations) : ∀ state ∈ registrations.states operations, holds state := by
  induction operations generalizing registrations with
  | nil => simpa [states] using start
  | cons operation rest ih =>
      rw [List.forall_mem_cons] at step
      rw [states, List.scanl_cons, List.forall_mem_cons]
      exact ⟨start, ih step.2 (apply_induction step.1 start)⟩

theorem applyAll_mem_states (registrations : Registrations) (operations : List Operation) :
    registrations.applyAll operations ∈ registrations.states operations := by
  induction operations generalizing registrations with
  | nil => simp [states, applyAll]
  | cons operation rest ih =>
      rw [states, List.scanl_cons]
      exact List.mem_cons_of_mem _ (ih (registrations.apply operation))

theorem isChain_states {follows : Registrations → Registrations → Prop}
    {operations : List Operation}
    (step : ∀ operation ∈ operations, ∀ found, follows found (found.apply operation)) :
    (registrations.states operations).IsChain follows := by
  induction operations generalizing registrations with
  | nil => simp [states]
  | cons operation rest ih =>
      rw [List.forall_mem_cons] at step
      have later : ((registrations.apply operation).states rest).IsChain follows := ih step.2
      have first := step.1 registrations
      rw [states, List.scanl_cons]
      cases rest with
      | nil => simpa [states] using first
      | cons next rest =>
          rw [states, List.scanl_cons] at later
          rw [List.scanl_cons]
          exact List.IsChain.cons_cons first later

/-! ## Uniqueness -/

/-- In every state that operations lead through: with verbs that try or replace, a service that has
at most one registration under a key at the start has at most one; with verbs that try, so has each
implementation of it, and each state goes on from the one before. An operation that replaces keeps
the number of registrations of what it is about, or makes it one where there was none, and leaves
the order of all that survives. -/
theorem verbs_keep_atMostOne (registrations : Registrations) :
    (∀ operations : List Operation,
      (∀ operation ∈ operations, operation.verb = .tryAdd ∨ operation.verb = .replace) →
      AtMostOne registrations → ∀ state ∈ registrations.states operations, AtMostOne state) ∧
    (∀ operations : List Operation,
      (∀ operation ∈ operations, operation.verb = .tryAdd ∨ operation.verb = .tryEnumerable) →
      (AtMostOneEach registrations →
        ∀ state ∈ registrations.states operations, AtMostOneEach state) ∧
      (registrations.states operations).IsChain (· <+: ·)) ∧
    ∀ operation : Operation, operation.verb = .replace →
      Replaces registrations (registrations.apply operation) operation := by
  refine ⟨?_, ?_, ?_⟩
  · intro operations verbs unique
    apply states_induction _ unique
    intro operation member found registration foundUnique
    exact foundUnique.applyVerb (verbs operation member) registration
  · intro operations verbs
    constructor
    · intro unique
      apply states_induction _ unique
      intro operation member found registration foundUnique
      exact foundUnique.applyVerb (verbs operation member) registration
    · apply isChain_states
      intro operation member found
      apply prefix_apply
      rcases verbs operation member with tries | tries <;> simp [tries]
  · intro operation replacing
    exact replaces_apply replacing

def dials : Registrations :=
  [⟨"Clock", none, .type "Wall", .singleton⟩, ⟨"Clock", some "utc", .type "Atomic", .singleton⟩]

/-- A type wired to interfaces, one of them twice and one of them the type itself, unless they are
there. -/
def offeredQuartz : Operation :=
  .crossWire ⟨"Quartz", none, .type "Quartz", .singleton⟩ ["Clock", "Quartz", "Clock"]
    .tryEnumerable

theorem verbs_keep_atMostOne_clocks :
    AtMostOne dials ∧
      AtMostOne (dials.applyAll [wiredQuartz, .tryAdd ⟨"Clock", none, .type "Sun", .scoped⟩]) ∧
      AtMostOneEach clocks ∧ AtMostOneEach (clocks.applyAll [offeredQuartz, keyedQuartz]) ∧
      (clocks.states [offeredQuartz, keyedQuartz]).IsChain (· <+: ·) ∧
      wiredQuartz.verb = .replace ∧ Replaces clocks (clocks.apply wiredQuartz) wiredQuartz := by
  have single : AtMostOne dials := atMostOne_of_pairwise (by decide)
  have each : AtMostOneEach clocks := atMostOneEach_of_pairwise (by decide)
  obtain ⟨singles, -, -⟩ := verbs_keep_atMostOne dials
  obtain ⟨-, tried, replaced⟩ := verbs_keep_atMostOne clocks
  obtain ⟨kept, grown⟩ := tried [offeredQuartz, keyedQuartz] (by decide)
  exact ⟨single, singles _ (by decide) single _ (applyAll_mem_states _ _), each,
    kept each _ (applyAll_mem_states _ _), grown, rfl, replaced wiredQuartz rfl⟩

-- Replacing takes the first registration of the service, whatever its implementation is.
example :
    replace [⟨"Clock", none, .type "Wall", .scoped⟩, ⟨"Clock", none, .type "Sun", .scoped⟩]
        ⟨"Clock", none, .type "Sun", .scoped⟩ =
      [⟨"Clock", none, .type "Sun", .scoped⟩, ⟨"Clock", none, .type "Sun", .scoped⟩] := by
  decide

end Registrations

end Wiring.Container
