/-!
Decimal notation: digits, and the plain text of digits with a point.
-/

set_option autoImplicit false

namespace Wiring.Text

def digits (cs : List Char) : List Char × List Char :=
  (cs.takeWhile Char.isDigit, cs.dropWhile Char.isDigit)

def digitsValue (cs : List Char) : Nat :=
  cs.foldl (fun value c => value * 10 + (c.toNat - '0'.toNat)) 0

/-- The text of digits with a point so many places from their end: the whole part without zeros at
its head, and the fraction without zeros at its end. -/
def decimalParts (digits : List Char) (places : Int) : List Char × List Char :=
  let zeros (count : Nat) : List Char := List.replicate count '0'
  let (whole, fraction) : List Char × List Char :=
    if places ≤ 0 then (digits ++ zeros (-places).toNat, [])
    else
      let digits := zeros (places.toNat + 1 - digits.length) ++ digits
      (digits.take (digits.length - places.toNat), digits.drop (digits.length - places.toNat))
  let whole := whole.dropWhile (· == '0')
  (if whole.isEmpty then ['0'] else whole, (fraction.reverse.dropWhile (· == '0')).reverse)

def decimalText (isNegative : Bool) (digits : List Char) (places : Int) : String :=
  let (whole, fraction) := decimalParts digits places
  String.ofList ((if isNegative then ['-'] else []) ++ whole ++
    if fraction.isEmpty then [] else '.' :: fraction)

/-- The text of a decimal number that shows that it is no integer: it has a fraction, and from
seventeen digits before the point, or five zeros after it, an exponent. -/
def fractionalText (isNegative : Bool) (digits : List Char) (places : Int) : String :=
  let point : Int := digits.length - places
  let body : List Char :=
    match digits with
    | first :: more =>
        if -5 < point && point ≤ 16 then plain
        else
          [first] ++ (if more.isEmpty then [] else '.' :: more) ++ ['e'] ++
            (toString (point - 1)).toList
    | [] => plain
  String.ofList ((if isNegative then ['-'] else []) ++ body)
where
  plain : List Char :=
    let (whole, fraction) := decimalParts digits places
    whole ++ ['.'] ++ if fraction.isEmpty then ['0'] else fraction

end Wiring.Text
