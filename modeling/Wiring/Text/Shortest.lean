import Wiring.Text.Decimal

/-!
Decimal numbers as sixty-four bits hold them: the nearest binary fraction, and the fewest digits
that stand for it. All arithmetic is exact.
-/

set_option autoImplicit false

namespace Wiring.Text

/-- A binary fraction: a significand times a power of two. -/
structure BinaryFraction where
  significand : Nat
  exponent : Int
deriving DecidableEq, Repr

def significandBits : Nat :=
  53

def lowestExponent : Int :=
  -1074

def highestExponent : Int :=
  971

/-- The quotient rounded to the nearest integer; a half goes to the even one. -/
def roundedQuotient (num den : Nat) : Nat :=
  let low := num / den
  let twice := 2 * (num % den)
  if twice < den || (twice == den && low % 2 == 0) then low else low + 1

/-- The binary fraction nearest to a quotient that is not zero; none if it is too large. -/
def nearestFraction? (num den : Nat) : Option BinaryFraction :=
  let scaled (exponent : Int) : Nat × Nat :=
    (num * Nat.pow 2 (-exponent).toNat, den * Nat.pow 2 exponent.toNat)
  let below : Int := (Nat.log2 num : Int) - Nat.log2 den - significandBits
  let (n, d) := scaled below
  let fitting := if Nat.pow 2 significandBits ≤ n / d then below + 1 else below
  let exponent := max fitting lowestExponent
  let (n, d) := scaled exponent
  let significand := roundedQuotient n d
  let found : BinaryFraction :=
    if significand == Nat.pow 2 significandBits then
      ⟨Nat.pow 2 (significandBits - 1), exponent + 1⟩
    else ⟨significand, exponent⟩
  if highestExponent < found.exponent then none else some found

namespace BinaryFraction

/-- Where the numbers that round to a fraction begin and end, in quarters of its last place. -/
def quarters (x : BinaryFraction) : Nat × Nat :=
  let isEdge := x.significand == Nat.pow 2 (significandBits - 1) && lowestExponent < x.exponent
  (4 * x.significand - (if isEdge then 1 else 2), 4 * x.significand + 2)

def sides (x : BinaryFraction) (power : Int) (count quarters : Nat) : Nat × Nat :=
  let shift := x.exponent - 2
  (count * Nat.pow 10 power.toNat * Nat.pow 2 (-shift).toNat,
    quarters * Nat.pow 2 shift.toNat * Nat.pow 10 (-power).toNat)

/-- Whether a multiple of a power of ten rounds to a fraction. -/
def stands (x : BinaryFraction) (power : Int) (count : Nat) : Bool :=
  let (low, high) := x.quarters
  let (atLow, lowSide) := x.sides power count low
  let (atHigh, highSide) := x.sides power count high
  if x.significand % 2 == 0 then lowSide ≤ atLow && atHigh ≤ highSide
  else lowSide < atLow && atHigh < highSide

/-- The multiple of a power of ten that stands for a fraction: of two the nearer one, and of two
equally near ones the even one. -/
def multiple? (x : BinaryFraction) (power : Int) : Option Nat :=
  let (unit, value) := x.sides power 1 (4 * x.significand)
  let low := value / unit
  match x.stands power low, x.stands power (low + 1) with
  | true, true => some (roundedQuotient value unit)
  | true, false => some low
  | false, true => some (low + 1)
  | false, false => none

/-- The largest power of ten, from the given one down, that has a multiple that stands for a
fraction, and that multiple. -/
def coarsest (x : BinaryFraction) : Nat → Int → Nat × Int
  | 0, power => (0, power)
  | fuel + 1, power =>
      match x.multiple? power with
      | some count => (count, power)
      | none => coarsest x fuel (power - 1)

end BinaryFraction

/-- The fewest digits that stand for the number nearest to a decimal one, and their places after
the point; none if it is too large. Zero has no digits. -/
def shortestDigits? (found : List Char) (places : Int) : Option (List Char × Int) :=
  let found := found.dropWhile (· == '0')
  let highest : Int := found.length - 1 - places
  if found.isEmpty || highest < -330 then some ([], 0)
  else if 310 < highest then none
  else
    (nearestFraction? (digitsValue found * Nat.pow 10 (-places).toNat)
      (Nat.pow 10 places.toNat)).map
      fun x =>
        if x.significand == 0 then ([], 0)
        else
          let (count, power) := x.coarsest 660 310
          (Nat.toDigits 10 count, -power)

end Wiring.Text
