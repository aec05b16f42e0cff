import Mathlib.Data.List.Nodup
import Mathlib.Data.List.Perm.Subperm
import Mathlib.Data.Nat.Find
import Wiring.Container.Collection

/-!
# Forwards

A chain of forwards that ends passes through no registration twice, so the bound on its length cuts
no chain short: see `resolveTarget_eq_some_iff`.  What a lookup resolves to depends on the lookups
under its key only.
-/

set_option autoImplicit false

namespace Wiring.Container.Registrations

variable {registrations : Registrations} {key : Option String}

/-! ## Single registrations -/

theorem mem_of_get? {service : String} {registration : Registration}
    (found : registrations.get? service key = some registration) :
    registration ∈ registrations ∧ registration.service = service ∧ registration.key = key := by
  have member := List.mem_of_getLast? found
  simpa [find, Registration.isFor] using member

theorem follow_cases (registrations : Registrations) (key : Option String)
    (current : Registration) :
    (∃ target, ∀ fuel, registrations.follow key (fuel + 1) current =
        (registrations.get? target key).bind (registrations.follow key fuel)) ∨
      ∀ fuel, registrations.follow key (fuel + 1) current = some current := by
  cases kind : current.implementation with
  | type name => exact Or.inr fun fuel => by simp [follow, kind]
  | factory name => exact Or.inr fun fuel => by simp [follow, kind]
  | forward target => exact Or.inl ⟨target, fun fuel => by simp [follow, kind]⟩

/-! ## Chains -/

theorem follow_mono {fuel more : Nat} (le : fuel ≤ more) {current final : Registration}
    (ends : registrations.follow key fuel current = some final) :
    registrations.follow key more current = some final := by
  induction fuel generalizing more current with
  | zero => simp [follow] at ends
  | succ fuel ih =>
      obtain ⟨more, rfl⟩ : ∃ less, more = less + 1 := ⟨more - 1, by omega⟩
      rcases registrations.follow_cases key current with ⟨target, forwards⟩ | last
      · rw [forwards] at ends ⊢
        obtain ⟨next, found, ends⟩ := Option.bind_eq_some_iff.mp ends
        rw [found]
        exact ih (by omega) ends
      · rw [last] at ends ⊢
        exact ends

/-- A chain that ends after so many registrations and not before passes through as many different
ones. -/
theorem exists_chain {fuel : Nat} {current final : Registration} (member : current ∈ registrations)
    (ends : registrations.follow key fuel current = some final)
    (first : ∀ fewer < fuel, registrations.follow key fewer current = none) :
    ∃ chain : List Registration, chain.length = fuel ∧ chain.Nodup ∧
      ∀ passed ∈ chain, passed ∈ registrations ∧
        registrations.follow key fuel passed = some final := by
  induction fuel generalizing current with
  | zero => simp [follow] at ends
  | succ fuel ih =>
      rcases registrations.follow_cases key current with ⟨target, forwards⟩ | last
      · rw [forwards] at ends
        obtain ⟨next, found, nextEnds⟩ := Option.bind_eq_some_iff.mp ends
        have nextFirst : ∀ fewer < fuel, registrations.follow key fewer next = none := by
          intro fewer less
          have before := first (fewer + 1) (by omega)
          rwa [forwards, found] at before
        obtain ⟨chain, length, distinct, passes⟩ := ih (mem_of_get? found).1 nextEnds nextFirst
        -- What the chain passes later ends with less fuel than the first registration needs.
        have fresh : current ∉ chain := by
          intro again
          have early := first fuel (by omega)
          rw [(passes current again).2] at early
          contradiction
        refine ⟨current :: chain, by simp [length], List.nodup_cons.mpr ⟨fresh, distinct⟩, ?_⟩
        intro passed among
        rcases List.mem_cons.mp among with rfl | among
        · exact ⟨member, by rw [forwards]; exact ends⟩
        · exact ⟨(passes passed among).1, follow_mono (by omega) (passes passed among).2⟩
      · cases fuel with
        | zero =>
            refine ⟨[current], rfl, List.nodup_singleton current, ?_⟩
            intro passed among
            rw [List.mem_singleton.mp among]
            exact ⟨member, ends⟩
        | succ fuel =>
            have early := first 1 (by omega)
            rw [last 0] at early
            contradiction

theorem exists_first_end {fuel : Nat} {current final : Registration}
    (ends : registrations.follow key fuel current = some final) :
    ∃ first, registrations.follow key first current = some final ∧
      ∀ fewer < first, registrations.follow key fewer current = none := by
  have exists_end : ∃ fuel, registrations.follow key fuel current = some final := ⟨fuel, ends⟩
  refine ⟨Nat.find exists_end, Nat.find_spec exists_end, ?_⟩
  intro fewer less
  cases early : registrations.follow key fewer current with
  | none => rfl
  | some other =>
      have same := follow_mono (Nat.le_of_lt less) early
      rw [Nat.find_spec exists_end] at same
      rw [← Option.some.inj same] at early
      exact absurd early (Nat.find_min exists_end less)

theorem follow_length {fuel : Nat} {current final : Registration} (member : current ∈ registrations)
    (ends : registrations.follow key fuel current = some final) :
    registrations.follow key registrations.length current = some final := by
  obtain ⟨first, firstEnds, before⟩ := exists_first_end ends
  obtain ⟨chain, length, distinct, passes⟩ := exists_chain member firstEnds before
  have within : chain.length ≤ registrations.length :=
    (distinct.subperm fun passed among => (passes passed among).1).length_le
  exact follow_mono (length ▸ within) firstEnds

/-- A lookup resolves to a registration if the chain of forwards comes to it in any number of
steps. -/
theorem resolveTarget_eq_some_iff (registrations : Registrations) (service : String)
    (key : Option String) (final : Registration) :
    registrations.resolveTarget service key = some final ↔
      ∃ fuel, (registrations.get? service key).bind (registrations.follow key fuel) =
        some final := by
  constructor
  · intro resolved
    exact ⟨registrations.length, resolved⟩
  · rintro ⟨fuel, resolved⟩
    obtain ⟨current, found, ends⟩ := Option.bind_eq_some_iff.mp resolved
    rw [resolveTarget, found]
    exact follow_length (mem_of_get? found).1 ends

/-! ## Lookups under one key -/

theorem follow_congr {left right : Registrations}
    (same : ∀ service, left.get? service key = right.get? service key) (fuel : Nat)
    (current : Registration) : left.follow key fuel current = right.follow key fuel current := by
  induction fuel generalizing current with
  | zero => rfl
  | succ fuel ih =>
      have next : left.follow key fuel = right.follow key fuel := funext ih
      unfold follow
      split
      · rw [same, next]
      · rfl

/-- Where the same is looked up under a key, the same is resolved under it, whatever else is
registered. -/
theorem resolveTarget_congr {left right : Registrations}
    (same : ∀ service, left.get? service key = right.get? service key) (service : String) :
    left.resolveTarget service key = right.resolveTarget service key := by
  apply Option.ext
  intro final
  have follows : ∀ fuel, left.follow key fuel = right.follow key fuel :=
    fun fuel => funext (follow_congr same fuel)
  simp only [resolveTarget_eq_some_iff, same, follows]

theorem mem_of_follow {fuel : Nat} {current final : Registration} (member : current ∈ registrations)
    (underKey : current.key = key) (ends : registrations.follow key fuel current = some final) :
    final ∈ registrations ∧ final.key = key := by
  induction fuel generalizing current with
  | zero => simp [follow] at ends
  | succ fuel ih =>
      rcases registrations.follow_cases key current with ⟨target, forwards⟩ | last
      · rw [forwards] at ends
        obtain ⟨next, found, nextEnds⟩ := Option.bind_eq_some_iff.mp ends
        obtain ⟨nextMember, -, nextKey⟩ := mem_of_get? found
        exact ih nextMember nextKey nextEnds
      · rw [last] at ends
        obtain rfl := Option.some.inj ends
        exact ⟨member, underKey⟩

theorem mem_of_resolveTarget {service : String} {final : Registration}
    (resolved : registrations.resolveTarget service key = some final) :
    final ∈ registrations ∧ final.key = key := by
  obtain ⟨current, found, ends⟩ := Option.bind_eq_some_iff.mp resolved
  obtain ⟨member, -, underKey⟩ := mem_of_get? found
  exact mem_of_follow member underKey ends

end Wiring.Container.Registrations
