import Wiring.Json.Value
import Wiring.Text.Hexadecimal
import Wiring.Text.Shortest

/-!
Reading JSON texts.
-/

set_option autoImplicit false

namespace Wiring.Json

open Wiring.Text

def skipBlanks : List Char → List Char
  | [] => []
  | c :: rest =>
      if c == ' ' || c == '\n' || c == '\r' || c == '\t' then skipBlanks rest else c :: rest

def codeUnit? : List Char → Option (Nat × List Char)
  | a :: b :: c :: d :: rest => do
      let a ← hexDigit? a
      let b ← hexDigit? b
      let c ← hexDigit? c
      let d ← hexDigit? d
      return (((a * 16 + b) * 16 + c) * 16 + d, rest)
  | _ => none

/-- The character of an escape with a code; two halves of a pair make up one character. -/
def escapedCode? (cs : List Char) : Option (Char × List Char) := do
  let (unit, rest) ← codeUnit? cs
  if 0xd800 ≤ unit && unit < 0xdc00 then
    match rest with
    | '\\' :: 'u' :: more =>
        let (low, rest) ← codeUnit? more
        if 0xdc00 ≤ low && low < 0xe000 then
          return (Char.ofNat (0x10000 + (unit - 0xd800) * 0x400 + (low - 0xdc00)), rest)
        else none
    | _ => none
  else if 0xdc00 ≤ unit && unit < 0xe000 then none
  else return (Char.ofNat unit, rest)

/-- Characters of a quoted text after its opening quote, and the rest after its closing one. Each
round takes a character. -/
def quotedRest? : Nat → List Char → List Char → Option (String × List Char)
  | 0, _, _ => none
  | fuel + 1, done, cs =>
      match cs with
      | '\"' :: rest => some (String.ofList done.reverse, rest)
      | '\\' :: 'u' :: rest =>
          match escapedCode? rest with
          | some (c, rest) => quotedRest? fuel (c :: done) rest
          | none => none
      | '\\' :: c :: rest =>
          let plain : Option Char :=
            if c == '\"' || c == '\\' || c == '/' then some c
            else if c == 'n' then some '\n'
            else if c == 'r' then some '\r'
            else if c == 't' then some '\t'
            else if c == 'b' then some (Char.ofNat 8)
            else if c == 'f' then some (Char.ofNat 12)
            else none
          match plain with
          | some c => quotedRest? fuel (c :: done) rest
          | none => none
      | c :: rest => if c.toNat < 32 then none else quotedRest? fuel (c :: done) rest
      | [] => none

def exponent? (cs : List Char) : Option (Int × List Char) :=
  match cs with
  | c :: rest =>
      if c == 'e' || c == 'E' then
        let (isNegative, rest) :=
          match rest with
          | '-' :: more => (true, more)
          | '+' :: more => (false, more)
          | _ => (false, rest)
        let (found, rest) := digits rest
        if found.isEmpty then none
        else
          let value : Int := digitsValue found
          some (if isNegative then -value else value, rest)
      else none
  | [] => none

/-- A number with a fraction; none is too large. -/
def fractional? (isNegative : Bool) (found : List Char) (places : Int) (rest : List Char) :
    Option (Json × List Char) :=
  (shortestDigits? found places).map fun (found, places) =>
    (.float (fractionalText isNegative found places), rest)

/-- Reads a number. Integers of sixty-four bits are integers and all else has a fraction. -/
def number? (cs : List Char) : Option (Json × List Char) :=
  let (isNegative, cs) :=
    match cs with
    | '-' :: rest => (true, rest)
    | _ => (false, cs)
  let (whole, rest) := digits cs
  if whole.isEmpty then none
  else
    let (fraction, rest) :=
      match rest with
      | '.' :: more => digits more
      | _ => ([], rest)
    let places : Int := fraction.length
    let value := digitsValue whole
    match exponent? rest with
    | some (power, rest) =>
        fractional? isNegative (whole ++ fraction) (places - power) rest
    | none =>
        if !fraction.isEmpty || (isNegative && value == 0) || Nat.pow 2 64 ≤ value ||
            (isNegative && Nat.pow 2 63 < value) then
          fractional? isNegative (whole ++ fraction) places rest
        else some (.int (if isNegative then -(value : Int) else value), rest)

def word? (word : List Char) (cs : List Char) : Option (List Char) :=
  if word.isPrefixOf cs then some (cs.drop word.length) else none

mutual

/-- Reads a value. Each level takes a character. -/
def value? : Nat → List Char → Option (Json × List Char)
  | 0, _ => none
  | fuel + 1, cs =>
      match skipBlanks cs with
      | '\"' :: rest =>
          (quotedRest? (rest.length + 1) [] rest).map fun (text, rest) => (.string text, rest)
      | '[' :: rest =>
          match skipBlanks rest with
          | ']' :: rest => some (.array [], rest)
          | cs => (elements? fuel cs).map fun (found, rest) => (.array found, rest)
      | '\x7b' :: rest =>
          match skipBlanks rest with
          | '\x7d' :: rest => some (.object [], rest)
          | cs => (members? fuel cs).map fun (found, rest) => (.object found, rest)
      | cs =>
          match word? "null".toList cs, word? "true".toList cs, word? "false".toList cs with
          | some rest, _, _ => some (.null, rest)
          | none, some rest, _ => some (.bool true, rest)
          | none, none, some rest => some (.bool false, rest)
          | none, none, none => number? cs

def elements? : Nat → List Char → Option (List Json × List Char)
  | 0, _ => none
  | fuel + 1, cs =>
      match value? fuel cs with
      | none => none
      | some (value, rest) =>
          match skipBlanks rest with
          | ',' :: rest => (elements? fuel rest).map fun (found, rest) => (value :: found, rest)
          | ']' :: rest => some ([value], rest)
          | _ => none

def members? : Nat → List Char → Option (List (String × Json) × List Char)
  | 0, _ => none
  | fuel + 1, cs =>
      match skipBlanks cs with
      | '\"' :: rest =>
          match quotedRest? (rest.length + 1) [] rest with
          | none => none
          | some (name, rest) =>
              match skipBlanks rest with
              | ':' :: rest =>
                  match value? fuel rest with
                  | none => none
                  | some (value, rest) =>
                      match skipBlanks rest with
                      | ',' :: rest =>
                          (members? fuel rest).map fun (found, rest) =>
                            ((name, value) :: found, rest)
                      | '\x7d' :: rest => some ([(name, value)], rest)
                      | _ => none
              | _ => none
      | _ => none

end

def ofText? (text : String) : Option Json :=
  let cs := text.toList
  match value? (cs.length + 1) cs with
  | some (value, rest) => if (skipBlanks rest).isEmpty then some value else none
  | none => none

end Wiring.Json
