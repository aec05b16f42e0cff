import Wiring.Generation.Cache
import Wiring.Proofs.Generation.Inputs

/-!
# What a cache holds

A cache that was asked for some inputs holds the units of each of them once, and has counted how
many of them it did not hold when it was asked.
-/

set_option autoImplicit false

namespace Wiring.Generation

/-- Whether an input is equal to one of some inputs. -/
def isAmong (inputs : List UnitsInput) (input : UnitsInput) : Bool :=
  inputs.any fun earlier => earlier.same input

theorem same_iff (left right : UnitsInput) :
    left.same right = true ↔ left.canonical = right.canonical := by
  simp [UnitsInput.same]

theorem isAmong_iff (inputs : List UnitsInput) (input : UnitsInput) :
    isAmong inputs input = true ↔ ∃ earlier ∈ inputs, earlier.canonical = input.canonical := by
  simp [isAmong, same_iff]

theorem isAmong_of_same {inputs : List UnitsInput} {left right : UnitsInput}
    (known : isAmong inputs left = true) (same : left.same right = true) :
    isAmong inputs right = true := by
  rw [isAmong_iff] at known ⊢
  obtain ⟨earlier, member, alike⟩ := known
  exact ⟨earlier, member, alike.trans ((same_iff left right).mp same)⟩

theorem isAmong_snoc (inputs : List UnitsInput) (last input : UnitsInput) :
    isAmong (inputs ++ [last]) input = (isAmong inputs input || last.same input) := by
  simp [isAmong]

namespace Cache

/-- What a cache holds and has counted after it was asked for some inputs. -/
structure Tracks (cache : Cache) (inputs : List UnitsInput) : Prop where
  outputs : ∀ entry ∈ cache.entries, entry.2 = generateUnits entry.1
  apart : cache.entries.Pairwise fun later earlier => earlier.1.same later.1 = false
  size : cache.size = cache.misses
  total : cache.hits + cache.misses = inputs.length
  holds : ∀ input, (cache.entries.any fun entry => entry.1.same input) = isAmong inputs input

theorem tracks_empty : empty.Tracks [] where
  outputs := by simp [empty]
  apart := List.Pairwise.nil
  size := rfl
  total := rfl
  holds := fun _ => rfl

variable {cache : Cache} {inputs : List UnitsInput}

theorem get?_eq_none_iff (input : UnitsInput) :
    cache.get? input = none ↔ (cache.entries.any fun entry => entry.1.same input) = false := by
  simp [get?]

theorem Tracks.get?_eq_some (tracks : cache.Tracks inputs) {input : UnitsInput}
    {output : UnitsOutput} (found : cache.get? input = some output) :
    output.canonical = (generateUnits input).canonical := by
  rw [get?, Option.map_eq_some_iff] at found
  obtain ⟨entry, foundAt, rfl⟩ := found
  have same : entry.1.same input = true := by
    simpa using List.find?_some foundAt
  rw [tracks.outputs entry (List.mem_of_find?_eq_some foundAt), generateUnits_canonical same]

theorem Tracks.units_held (tracks : cache.Tracks inputs) {input : UnitsInput}
    (known : isAmong inputs input = true) :
    ∃ output, cache.units input = (output, { cache with hits := cache.hits + 1 }) ∧
      output.canonical = (generateUnits input).canonical := by
  cases found : cache.get? input with
  | none =>
      rw [get?_eq_none_iff, tracks.holds, known] at found
      exact absurd found (by simp)
  | some output => exact ⟨output, by rw [Cache.units, found], tracks.get?_eq_some found⟩

theorem Tracks.units_made (tracks : cache.Tracks inputs) {input : UnitsInput}
    (fresh : isAmong inputs input = false) :
    cache.units input =
      (generateUnits input,
        ⟨(input, generateUnits input) :: cache.entries, cache.hits, cache.misses + 1⟩) := by
  have missing : cache.get? input = none := by
    rw [get?_eq_none_iff, tracks.holds, fresh]
  rw [Cache.units, missing]

theorem Tracks.held (tracks : cache.Tracks inputs) {input : UnitsInput}
    (known : isAmong inputs input = true) :
    Tracks { cache with hits := cache.hits + 1 } (inputs ++ [input]) where
  outputs := tracks.outputs
  apart := tracks.apart
  size := tracks.size
  total := by
    rw [List.length_append, ← tracks.total]
    exact Nat.add_right_comm _ _ _
  holds := by
    intro other
    rw [isAmong_snoc, tracks.holds other]
    cases same : input.same other with
    | false => rw [Bool.or_false]
    | true => rw [isAmong_of_same known same, Bool.or_true]

theorem Tracks.made (tracks : cache.Tracks inputs) {input : UnitsInput}
    (fresh : isAmong inputs input = false) :
    Tracks ⟨(input, generateUnits input) :: cache.entries, cache.hits, cache.misses + 1⟩
      (inputs ++ [input]) where
  outputs := by
    intro entry member
    rcases List.mem_cons.mp member with rfl | member
    · rfl
    · exact tracks.outputs entry member
  apart := by
    have unheld := tracks.holds input
    rw [fresh, List.any_eq_false] at unheld
    exact List.pairwise_cons.mpr
      ⟨fun entry member => by simpa using unheld entry member, tracks.apart⟩
  size := congrArg (· + 1) tracks.size
  total := by
    rw [List.length_append, ← tracks.total]
    exact (Nat.add_assoc _ _ _).symm
  holds := by
    intro other
    rw [isAmong_snoc, List.any_cons, tracks.holds other, Bool.or_comm]

theorem Tracks.units (tracks : cache.Tracks inputs) (input : UnitsInput) :
    (cache.units input).1.canonical = (generateUnits input).canonical ∧
      (cache.units input).2.Tracks (inputs ++ [input]) ∧
      (cache.units input).2.hits = cache.hits + (isAmong inputs input).toNat ∧
      (cache.units input).2.misses = cache.misses + (!isAmong inputs input).toNat := by
  cases known : isAmong inputs input with
  | true =>
      obtain ⟨output, answered, units⟩ := tracks.units_held known
      rw [answered]
      exact ⟨units, tracks.held known, rfl, rfl⟩
  | false =>
      rw [tracks.units_made known]
      exact ⟨rfl, tracks.made known, rfl, rfl⟩

end Cache

end Wiring.Generation
