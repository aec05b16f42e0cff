import Wiring.Files.Path
import Wiring.Settings.Layers
import Wiring.Text.Shortest
import Wiring.Text.Hexadecimal
import Wiring.Text.Ranges
import Wiring.Text.Segments

/-!
Settings from variables of the environment. A value is read as a truth value, a list, a table, a
quoted text or a number where it is all of one, and otherwise it is a text.
-/

set_option autoImplicit false

namespace Wiring.Variables

open Wiring.Text

/-! ## Characters -/

def isBlank (c : Char) : Bool :=
  [' ', '\t', '\n', '\r', '\x0c'].contains c

def skipBlanks (cs : List Char) : List Char :=
  cs.dropWhile isBlank

def isSeparator (c : Char) : Bool :=
  [',', '\x7b', '\x7d', '[', ']'].contains c

def trim (cs : List Char) : List Char :=
  ((cs.dropWhile isWhiteSpace).reverse.dropWhile isWhiteSpace).reverse

/-! ## Numbers -/

def sign : List Char → Bool × List Char
  | '-' :: rest => (true, rest)
  | '+' :: rest => (false, rest)
  | cs => (false, cs)

def natural? (cs : List Char) : Option Nat :=
  if cs.isEmpty || !cs.all Char.isDigit then none else some (digitsValue cs)

/-- The power of ten after the digits of a number; none is there if nothing is left. -/
def power? : List Char → Option Int
  | [] => some 0
  | c :: rest =>
      if c == 'e' || c == 'E' then
        let (isNegative, rest) := sign rest
        (natural? rest).map fun value => if isNegative then -(value : Int) else value
      else none

/-- The plain text of a number with a point. Beyond the largest number there is only infinity, and
below the smallest one only zero. -/
def decimal? (cs : List Char) : Option String := do
  let (isNegative, rest) := sign cs
  let (whole, rest) := digits rest
  let (fraction, rest) :=
    match rest with
    | '.' :: more => digits more
    | _ => ([], rest)
  let power ← power? rest
  if whole.isEmpty && fraction.isEmpty then none
  else
    match shortestDigits? (whole ++ fraction) (fraction.length - power) with
    | some (found, places) => some (decimalText isNegative found places)
    | none => some (if isNegative then "-inf" else "inf")

def plainValue (cs : List Char) : RawValue :=
  let isPlus := cs.head? == some '+'
  let unsigned := (natural? (if isPlus then cs.drop 1 else cs)).filter (· < Nat.pow 2 64)
  let negative :=
    if cs.head? == some '-' then (natural? (cs.drop 1)).filter (· ≤ Nat.pow 2 63) else none
  match (if cs.contains '.' then decimal? cs else none), unsigned, negative with
  | some text, _, _ => .float text
  | none, some value, _ => .unsigned value
  | none, none, some value => .signed (-(value : Int))
  | none, none, none => .text (String.ofList cs)

/-! ## Values -/

def escape? : List Char → Option (Char × List Char)
  | 'b' :: rest => some (Char.ofNat 8, rest)
  | 't' :: rest => some ('\t', rest)
  | 'n' :: rest => some ('\n', rest)
  | 'f' :: rest => some (Char.ofNat 12, rest)
  | 'r' :: rest => some ('\r', rest)
  | '\"' :: rest => some ('\"', rest)
  | '\\' :: rest => some ('\\', rest)
  | 'u' :: rest => codePoint? 4 rest
  | 'U' :: rest => codePoint? 8 rest
  | _ => none

def quotedRest? : Nat → List Char → List Char → Option (String × List Char)
  | 0, _, _ => none
  | _ + 1, done, '\"' :: rest => some (String.ofList done.reverse, rest)
  | fuel + 1, done, '\\' :: rest =>
      match escape? rest with
      | some (c, rest) => quotedRest? fuel (c :: done) rest
      | none => none
  | fuel + 1, done, c :: rest =>
      if c == '\t' || (0x20 ≤ c.toNat && c.toNat != 0x7f) then quotedRest? fuel (c :: done) rest
      else none
  | _ + 1, _, [] => none

/-- A key of a table: a quoted text, or letters, digits, dashes and underscores. -/
def key? (cs : List Char) : Option (String × List Char) :=
  match cs with
  | '\"' :: rest => quotedRest? (rest.length + 1) [] rest
  | _ =>
      let isKeyChar (c : Char) : Bool := c.isAlphanum || c == '_' || c == '-'
      let name := cs.takeWhile isKeyChar
      if name.isEmpty then none else some (String.ofList name, cs.dropWhile isKeyChar)

def word? (word : String) (cs : List Char) : Option (List Char) :=
  dropLeadChars? word.toList cs

mutual

/-- A value with blanks around it; each one inside takes a character. -/
def valueAt? : Nat → List Char → Option (RawValue × List Char)
  | 0, _ => none
  | fuel + 1, cs =>
      let cs := skipBlanks cs
      let found : Option (RawValue × List Char) :=
        match word? "true" cs, word? "false" cs with
        | some rest, _ => some (.bool true, rest)
        | none, some rest => some (.bool false, rest)
        | none, none =>
            match cs with
            | '\x7b' :: rest =>
                (members? fuel [] rest).map fun (found, rest) => (RawValue.table found, rest)
            | '[' :: rest => (elements? fuel rest).map fun rest => (RawValue.sequence, rest)
            | '\"' :: rest =>
                (quotedRest? (rest.length + 1) [] rest).map fun (found, rest) =>
                  (RawValue.text found, rest)
            | '\'' :: c :: '\'' :: rest => some (.char c, rest)
            | '\'' :: _ => none
            | _ =>
                some (plainValue (trim (cs.takeWhile fun c => !isSeparator c)),
                  cs.dropWhile fun c => !isSeparator c)
      found.map fun (value, rest) => (value, skipBlanks rest)

def elements? : Nat → List Char → Option (List Char)
  | 0, _ => none
  | fuel + 1, cs =>
      match cs with
      | ']' :: rest => some rest
      | _ =>
          match valueAt? fuel cs with
          | some (_, ',' :: rest) => elements? fuel rest
          | some (_, ']' :: rest) => some rest
          | _ => none

def members? : Nat → List (String × RawValue) → List Char →
    Option (List (String × RawValue) × List Char)
  | 0, _, _ => none
  | fuel + 1, found, cs =>
      match cs with
      | '\x7d' :: rest => some (found, rest)
      | _ =>
          match key? (skipBlanks cs) with
          | none => none
          | some (key, rest) =>
              match skipBlanks rest with
              | '=' :: rest =>
                  match valueAt? fuel rest with
                  | some (value, ',' :: rest) => members? fuel (found ++ [(key, value)]) rest
                  | some (value, '\x7d' :: rest) => some (found ++ [(key, value)], rest)
                  | _ => none
              | _ => none

end

def value (text : String) : RawValue :=
  match valueAt? (text.length + 1) text.toList with
  | some (found, []) => found
  | _ => .text text

/-! ## Names -/

/-- The keys that the name of a variable denotes, if it sets something. Upper and lower case are
the same. -/
def keys? (name : String) : Option (List String) :=
  let name := (name.map Char.toUpper).toList
  match dropLeadChars? variableLead.toList name with
  | none => none
  | some rest =>
      let parts := (Files.splitAtChar '.' rest).map fun part =>
        (String.ofList part).map Char.toLower
      if parts.contains "" then none else some parts

def nested (value : RawValue) : List String → RawValue
  | [] => value
  | key :: rest => .table [(key, nested value rest)]

def setting? (setting : String × String) : Option (String × RawValue) :=
  match keys? setting.1 with
  | some (key :: rest) => some (key, nested (value setting.2) rest)
  | _ => none

def layer (environment : List (String × String)) : Layer :=
  ⟨.environment, environment.filterMap setting?⟩

end Wiring.Variables
