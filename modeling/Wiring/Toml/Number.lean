import Wiring.Text.Shortest
import Wiring.Text.Hexadecimal
import Wiring.Toml.Text
import Wiring.Toml.Value

/-!
Numbers, dates and times of a settings file.
-/

set_option autoImplicit false

namespace Wiring.Toml

open Wiring.Text

/-! ## Numbers -/

def digitRun? (isDigit : Char → Bool) : List Char → Option (List Char × List Char)
  | [] => none
  | c :: rest =>
      if isDigit c then
        match rest with
        | '_' :: more => (digitRun? isDigit more).map fun (found, rest) => (c :: found, rest)
        | d :: more =>
            if isDigit d then
              (digitRun? isDigit (d :: more)).map fun (found, rest) => (c :: found, rest)
            else some ([c], d :: more)
        | [] => some ([c], [])
      else none

def sign : List Char → Option Bool × List Char
  | '-' :: rest => (some true, rest)
  | '+' :: rest => (some false, rest)
  | cs => (none, cs)

/-- Decimal digits. A zero at the head stands alone. -/
def wholePart? : List Char → Option (List Char × List Char)
  | '0' :: rest => some (['0'], rest)
  | cs => digitRun? Char.isDigit cs

def baseValue (base : Nat) (found : List Char) : Nat :=
  found.foldl (fun value c => value * base + (hexDigit? c).getD 0) 0

def isDigitOf (base : Nat) (c : Char) : Bool :=
  match hexDigit? c with
  | some value => value < base
  | none => false

def bounded? (value : Int) (rest : List Char) : Option (Value × List Char) :=
  if -Int.pow 2 63 ≤ value && value < Int.pow 2 63 then some (.int value, rest) else none

def integer? : List Char → Option (Value × List Char)
  | '0' :: 'x' :: rest => inBase 16 rest
  | '0' :: 'o' :: rest => inBase 8 rest
  | '0' :: 'b' :: rest => inBase 2 rest
  | cs =>
      let (isNegative, rest) := sign cs
      match wholePart? rest with
      | none => none
      | some (found, rest) =>
          let value : Int := digitsValue found
          bounded? (if isNegative == some true then -value else value) rest
where
  inBase (base : Nat) (cs : List Char) : Option (Value × List Char) :=
    match digitRun? (isDigitOf base) cs with
    | none => none
    | some (found, rest) => bounded? (baseValue base found) rest

/-- An exponent, and the rest; without one it is zero. -/
def exponent? : List Char → Option (Option Int × List Char)
  | c :: rest =>
      if c == 'e' || c == 'E' then
        let (isNegative, rest) := sign rest
        match digitRun? Char.isDigit rest with
        | none => none
        | some (found, rest) =>
            let value : Int := digitsValue found
            some (some (if isNegative == some true then -value else value), rest)
      else some (none, c :: rest)
  | [] => some (none, [])

/-- A number with a fraction or an exponent. None is too large. -/
def decimal? (isNegative : Bool) (cs : List Char) : Option (Value × List Char) := do
  let (whole, rest) ← wholePart? cs
  let (fraction, rest) ←
    match rest with
    | '.' :: more => (digitRun? Char.isDigit more).map fun (found, rest) => (some found, rest)
    | _ => some (none, rest)
  let (power, rest) ← exponent? rest
  if fraction.isNone && power.isNone then none
  else
    let places : Int := (fraction.getD []).length - power.getD 0
    let (found, places) ← shortestDigits? (whole ++ fraction.getD []) places
    return (.float (decimalText isNegative found places), rest)

def float? (cs : List Char) : Option (Value × List Char) :=
  let (isNegative, rest) := sign cs
  match rest with
  | 'i' :: 'n' :: 'f' :: rest =>
      some (.float (if isNegative == some true then "-inf" else "inf"), rest)
  | 'n' :: 'a' :: 'n' :: rest => some (.float "NaN", rest)
  | _ => decimal? (isNegative == some true) rest

/-! ## Dates and times -/

def digitsOf? (count : Nat) (cs : List Char) : Option (Nat × List Char) :=
  let found := cs.take count
  if found.length == count && found.all Char.isDigit then some (digitsValue found, cs.drop count)
  else none

def after? (c : Char) : List Char → Option (List Char)
  | d :: rest => if d == c then some rest else none
  | [] => none

def daysOf (year month : Nat) : Nat :=
  if month == 2 then
    if year % 4 == 0 && (year % 100 != 0 || year % 400 == 0) then 29 else 28
  else if [4, 6, 9, 11].contains month then 30
  else 31

def date? (cs : List Char) : Option (List Char) := do
  let (year, rest) ← digitsOf? 4 cs
  let rest ← after? '-' rest
  let (month, rest) ← digitsOf? 2 rest
  let rest ← after? '-' rest
  let (day, rest) ← digitsOf? 2 rest
  if 1 ≤ month && month ≤ 12 && 1 ≤ day && day ≤ daysOf year month then some rest else none

def time? (cs : List Char) : Option (List Char) := do
  let (hour, rest) ← digitsOf? 2 cs
  let rest ← after? ':' rest
  let (minute, rest) ← digitsOf? 2 rest
  let rest ← after? ':' rest
  let (second, rest) ← digitsOf? 2 rest
  if 23 < hour || 59 < minute || 60 < second then none
  else
    match rest with
    | '.' :: more =>
        let (found, rest) := digits more
        if found.isEmpty then none else some rest
    | _ => some rest

def offset (cs : List Char) : Option (List Char) :=
  match cs with
  | [] => some []
  | c :: rest =>
      if c == 'Z' || c == 'z' then some rest
      else if c == '+' || c == '-' then do
        let (hour, rest) ← digitsOf? 2 rest
        let rest ← after? ':' rest
        let (minute, rest) ← digitsOf? 2 rest
        if 23 < hour || 59 < minute then none else some rest
      else some (c :: rest)

def timeOfDay (cs : List Char) : Option (List Char) :=
  match cs with
  | c :: rest =>
      if c == 'T' || c == 't' || c == ' ' then
        match time? rest with
        | some rest => offset rest
        | none => some cs
      else some cs
  | [] => some []

/-- A date, a time, or both. -/
def moment? (cs : List Char) : Option (Value × List Char) := do
  let rest ←
    match date? cs with
    | some rest => timeOfDay rest
    | none => time? cs
  return (.date (String.ofList (cs.take (cs.length - rest.length))), rest)

def number? (cs : List Char) : Option (Value × List Char) :=
  ((moment? cs).or (float? cs)).or (integer? cs)

end Wiring.Toml
