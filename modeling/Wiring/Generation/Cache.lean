import Wiring.Generation.Units

/-!
A cache of units: the units of an input that was seen before are not made anew.
-/

set_option autoImplicit false

namespace Wiring.Generation

structure Cache where
  entries : List (UnitsInput × UnitsOutput)
  hits : Nat
  misses : Nat
deriving DecidableEq, Repr

namespace Cache

def empty : Cache :=
  ⟨[], 0, 0⟩

def size (cache : Cache) : Nat :=
  cache.entries.length

def isEmpty (cache : Cache) : Bool :=
  cache.entries.isEmpty

def get? (cache : Cache) (input : UnitsInput) : Option UnitsOutput :=
  (cache.entries.find? fun entry => entry.1.same input).map (·.2)

def units (cache : Cache) (input : UnitsInput) : UnitsOutput × Cache :=
  match cache.get? input with
  | some output => (output, { cache with hits := cache.hits + 1 })
  | none =>
      let output := generateUnits input
      (output, ⟨(input, output) :: cache.entries, cache.hits, cache.misses + 1⟩)

end Cache

end Wiring.Generation
