import Mathlib.Data.List.Chain
import Mathlib.Logic.Relation
import Wiring.Proofs.Container.Forwards

/-!
# Chains of forwards

A lookup begins a chain, in which each forward is replaced by what is looked up for its target.  The
registration that ends the chain is found however many registrations the chain passes through, and
nothing is found exactly if the chain has no end: see `resolveTarget_exact`.
-/

set_option autoImplicit false

namespace Wiring.Container

def Registration.Forwards (registration : Registration) : Prop :=
  ∃ target, registration.implementation = .forward target

instance decidableForwards : DecidablePred Registration.Forwards := fun registration =>
  match kind : registration.implementation with
  | .forward target => isTrue ⟨target, kind⟩
  | .type _ => isFalse fun ⟨_, forward⟩ => by simp [kind] at forward
  | .factory _ => isFalse fun ⟨_, forward⟩ => by simp [kind] at forward

namespace Registrations

/-- One step of a chain: a forward is replaced by what is looked up for its target. -/
def Leads (registrations : Registrations) (key : Option String) (current next : Registration) :
    Prop :=
  ∃ target, current.implementation = .forward target ∧ registrations.get? target key = some next

/-- A chain of a service passes through a registration after some number of steps. -/
def Passes (registrations : Registrations) (service : String) (key : Option String)
    (passed : Registration) : Prop :=
  ∃ first, registrations.get? service key = some first ∧
    Relation.ReflTransGen (registrations.Leads key) first passed

/-- Some lookup on the chain of a service finds nothing: the first one, or the one of a forward. -/
def BreaksOff (registrations : Registrations) (service : String) (key : Option String) : Prop :=
  registrations.get? service key = none ∨
    ∃ passed target, registrations.Passes service key passed ∧
      passed.implementation = .forward target ∧ registrations.get? target key = none

variable {registrations : Registrations} {service : String} {key : Option String}
  {current next final : Registration}

/-! ## Steps -/

theorem follow_of_not_forwards (ends : ¬current.Forwards) (fuel : Nat) :
    registrations.follow key (fuel + 1) current = some current := by
  cases kind : current.implementation with
  | type name => simp [follow, kind]
  | factory name => simp [follow, kind]
  | forward target => exact absurd ⟨target, kind⟩ ends

theorem Leads.follow (leads : registrations.Leads key current next) (fuel : Nat) :
    registrations.follow key (fuel + 1) current = registrations.follow key fuel next := by
  obtain ⟨target, kind, found⟩ := leads
  simp [Registrations.follow, kind, found]

theorem Leads.unique {other : Registration} (leads : registrations.Leads key current next)
    (also : registrations.Leads key current other) : other = next := by
  obtain ⟨target, kind, found⟩ := leads
  obtain ⟨target', kind', found'⟩ := also
  obtain rfl : target = target' := by simpa [kind] using kind'
  exact Option.some.inj (found'.symm.trans found)

/-! ## Whole chains -/

theorem reaches_of_follow {fuel : Nat}
    (ends : registrations.follow key fuel current = some final) :
    ¬final.Forwards ∧ Relation.ReflTransGen (registrations.Leads key) current final := by
  induction fuel generalizing current with
  | zero => simp [follow] at ends
  | succ fuel ih =>
      by_cases forwards : current.Forwards
      · obtain ⟨target, kind⟩ := forwards
        simp only [follow, kind] at ends
        obtain ⟨next, found, nextEnds⟩ := Option.bind_eq_some_iff.mp ends
        obtain ⟨last, reaches⟩ := ih nextEnds
        exact ⟨last, reaches.head ⟨target, kind, found⟩⟩
      · rw [follow_of_not_forwards forwards] at ends
        obtain rfl := Option.some.inj ends
        exact ⟨forwards, .refl⟩

theorem exists_follow_of_reaches (last : ¬final.Forwards)
    (reaches : Relation.ReflTransGen (registrations.Leads key) current final) :
    ∃ fuel, registrations.follow key fuel current = some final := by
  induction reaches using Relation.ReflTransGen.head_induction_on with
  | refl => exact ⟨1, follow_of_not_forwards last 0⟩
  | head leads _ ih =>
      obtain ⟨fuel, ends⟩ := ih
      exact ⟨fuel + 1, (leads.follow fuel).trans ends⟩

theorem resolveTarget_eq_some_iff_passes :
    registrations.resolveTarget service key = some final ↔
      ¬final.Forwards ∧ registrations.Passes service key final := by
  rw [resolveTarget_eq_some_iff]
  constructor
  · rintro ⟨fuel, resolved⟩
    obtain ⟨first, found, ends⟩ := Option.bind_eq_some_iff.mp resolved
    obtain ⟨last, reaches⟩ := reaches_of_follow ends
    exact ⟨last, first, found, reaches⟩
  · rintro ⟨last, first, found, reaches⟩
    obtain ⟨fuel, ends⟩ := exists_follow_of_reaches last reaches
    exact ⟨fuel, by rw [found]; exact ends⟩

theorem Passes.comparable {passed other : Registration}
    (passes : registrations.Passes service key passed)
    (also : registrations.Passes service key other) :
    Relation.ReflTransGen (registrations.Leads key) passed other ∨
      Relation.ReflTransGen (registrations.Leads key) other passed := by
  obtain ⟨first, found, reaches⟩ := passes
  obtain ⟨first', found', reaches'⟩ := also
  obtain rfl := Option.some.inj (found.symm.trans found')
  exact reaches.total_of_right_unique (fun _ _ _ leads again => (leads.unique again).symm) reaches'

theorem eq_of_reaches {other : Registration} (stuck : ∀ next, ¬registrations.Leads key current next)
    (reaches : Relation.ReflTransGen (registrations.Leads key) current other) :
    other = current := by
  rcases reaches.cases_head with rfl | ⟨next, leads, -⟩
  · rfl
  · exact absurd leads (stuck next)

theorem BreaksOff.forwards {passed : Registration} (breaks : registrations.BreaksOff service key)
    (passes : registrations.Passes service key passed) : passed.Forwards := by
  rcases breaks with nothing | ⟨broken, target, before, kind, nothing⟩
  · obtain ⟨first, found, -⟩ := passes
    rw [nothing] at found
    cases found
  · by_contra last
    have brokenStuck : ∀ next, ¬registrations.Leads key broken next := by
      rintro next ⟨target', kind', found⟩
      obtain rfl : target = target' := by simpa [kind] using kind'
      rw [nothing] at found
      cases found
    have lastStuck : ∀ next, ¬registrations.Leads key passed next := by
      rintro next ⟨target', kind', -⟩
      exact last ⟨target', kind'⟩
    -- Neither leads on, and on one chain only one registration can be the last.
    have same : passed = broken := by
      rcases passes.comparable before with onward | onward
      · exact (eq_of_reaches lastStuck onward).symm
      · exact eq_of_reaches brokenStuck onward
    exact last (same ▸ ⟨target, kind⟩)

theorem forwards_of_resolveTarget_eq_none {passed : Registration}
    (nothing : registrations.resolveTarget service key = none)
    (passes : registrations.Passes service key passed) : passed.Forwards := by
  by_contra last
  rw [resolveTarget_eq_some_iff_passes.mpr ⟨last, passes⟩] at nothing
  cases nothing

theorem passes_of_isChain {first : Registration} {rest : List Registration}
    (found : registrations.get? service key = some first)
    (linked : (first :: rest).IsChain (registrations.Leads key))
    (last : (first :: rest).getLast? = some final) :
    registrations.Passes service key final := by
  refine ⟨first, found, ?_⟩
  rw [List.getLast?_eq_some_getLast (List.cons_ne_nil first rest), Option.some.injEq] at last
  exact last ▸ List.relationReflTransGen_of_exists_isChain_cons rest linked rfl

/-- What following forwards from a service comes to, in any registrations. -/
structure FollowsToEnd (registrations : Registrations) (service : String) (key : Option String) :
    Prop where
  /-- It is the registration on the chain that is no forward. -/
  some_iff : ∀ final, registrations.resolveTarget service key = some final ↔
    ¬final.Forwards ∧ registrations.Passes service key final
  /-- It is nothing exactly if the chain breaks off or passes through forwards only. -/
  none_iff : registrations.resolveTarget service key = none ↔
    registrations.BreaksOff service key ∨
      ∀ passed, registrations.Passes service key passed → passed.Forwards
  /-- In the second case the chain goes on without end. -/
  endless : registrations.resolveTarget service key = none →
    ¬registrations.BreaksOff service key → ∀ passed, registrations.Passes service key passed →
      ∃ next, registrations.Leads key passed next
  /-- A chain may pass through all the registrations that there are. -/
  whole : ∀ first rest final, registrations.get? service key = some first →
    (first :: rest).IsChain (registrations.Leads key) →
      (first :: rest).getLast? = some final → ¬final.Forwards →
        (∀ registration ∈ registrations, registration ∈ first :: rest) →
          registrations.resolveTarget service key = some final

theorem resolveTarget_exact (registrations : Registrations) (service : String)
    (key : Option String) : FollowsToEnd registrations service key where
  some_iff final := resolveTarget_eq_some_iff_passes
  none_iff := by
    constructor
    · intro nothing
      right
      intro passed passes
      exact forwards_of_resolveTarget_eq_none nothing passes
    · intro endless
      rw [Option.eq_none_iff_forall_ne_some]
      intro final resolved
      obtain ⟨last, passes⟩ := resolveTarget_eq_some_iff_passes.mp resolved
      rcases endless with breaks | forwards
      · exact last (breaks.forwards passes)
      · exact last (forwards final passes)
  endless nothing unbroken passed passes := by
    obtain ⟨target, kind⟩ := forwards_of_resolveTarget_eq_none nothing passes
    obtain ⟨next, found⟩ := Option.ne_none_iff_exists'.mp fun missing =>
      unbroken (.inr ⟨passed, target, passes, kind, missing⟩)
    exact ⟨next, target, kind, found⟩
  whole first rest final found linked last ends _ :=
    resolveTarget_eq_some_iff_passes.mpr ⟨ends, passes_of_isChain found linked last⟩

def relay : Registrations :=
  [⟨"Disk", none, .type "Disk", .singleton⟩, ⟨"Store", none, .forward "Disk", .scoped⟩,
    ⟨"Cache", none, .forward "Store", .scoped⟩, ⟨"Reader", none, .forward "Cache", .scoped⟩]

theorem resolveTarget_exact_relay :
    relay.resolveTarget "Reader" none = some ⟨"Disk", none, .type "Disk", .singleton⟩ := by
  refine (resolveTarget_exact relay "Reader" none).whole ⟨"Reader", none, .forward "Cache", .scoped⟩
    [⟨"Cache", none, .forward "Store", .scoped⟩, ⟨"Store", none, .forward "Disk", .scoped⟩,
      ⟨"Disk", none, .type "Disk", .singleton⟩] _ (by decide) ?_ rfl (by decide) (by decide)
  exact .cons_cons ⟨"Cache", rfl, by decide⟩ (.cons_cons ⟨"Store", rfl, by decide⟩
    (.cons_cons ⟨"Disk", rfl, by decide⟩ (.singleton _)))

end Registrations

end Wiring.Container
