import Wiring.Grammar.Literal

/-!
What a literal token denotes: its class, the value of a string, and the digits of a number.
-/

set_option autoImplicit false

namespace Wiring.Grammar

open Wiring.Text

inductive LiteralClass where
  | string
  | integer
  | float
  | other
deriving DecidableEq, Repr

/-- An integer literal: its value, without a sign, and its suffix. -/
structure IntegerLiteral where
  value : Nat
  suffix : String
deriving DecidableEq, Repr

def suffixText? (cs : List Char) : Option String :=
  if cs.isEmpty || isIdentifierText cs then some (String.ofList cs) else none

def isExponent : Bool → List Char → Bool
  | hasDigit, [] => hasDigit
  | hasDigit, c :: rest =>
      if c == '_' then isExponent hasDigit rest
      else if c == '-' || c == '+' then true
      else if c.isDigit then isExponent true rest
      else hasDigit && isIdentifierText (c :: rest)

def integerDigits? (base : Nat) : Nat → Bool → List Char → Option IntegerLiteral
  | value, hasDigit, [] => if hasDigit then some ⟨value, ""⟩ else none
  | value, hasDigit, c :: rest =>
      let finish : Option IntegerLiteral :=
        if hasDigit then (suffixText? (c :: rest)).map fun suffix => ⟨value, suffix⟩ else none
      if c.isDigit then
        let digit := c.toNat - '0'.toNat
        if digit < base then integerDigits? base (value * base + digit) true rest else none
      else if c == '_' then integerDigits? base value hasDigit rest
      else if base == 16 then
        match hexValue? c with
        | some digit => integerDigits? base (value * base + digit) true rest
        | none => finish
      else if base == 10 && c == '.' then none
      else if base == 10 && (c == 'e' || c == 'E') && isExponent false rest then none
      else finish

def integerLiteral? (text : String) : Option IntegerLiteral :=
  match text.toList with
  | '0' :: 'x' :: rest => integerDigits? 16 0 false rest
  | '0' :: 'o' :: rest => integerDigits? 8 0 false rest
  | '0' :: 'b' :: rest => integerDigits? 2 0 false rest
  | cs => integerDigits? 10 0 false cs

def literalClass (text : String) : LiteralClass :=
  match text.toList with
  | '\"' :: _ => .string
  | 'r' :: _ => .string
  | c :: _ =>
      if c.isDigit then
        if (integerLiteral? text).isSome then .integer else .float
      else .other
  | [] => .other

/-- The character of a code point; code points that are no characters denote nothing. -/
def charOfCode (code : Nat) : List Char :=
  if code.isValidChar then [Char.ofNat code] else []

inductive ValueState where
  | plain
  | escape
  | hexFirst
  | hexSecond (first : Nat)
  | code (value : Nat)
  | skip

/-- The value of a text between quotes, and what follows the closing quote. A line break of two
characters counts as one, and a backslash before a line break drops it and the blanks after it. -/
def quotedValue : ValueState → List Char → List Char × List Char
  | _, [] => ([], [])
  | .plain, '\"' :: rest => ([], rest)
  | .plain, '\\' :: rest => quotedValue .escape rest
  | .plain, '\r' :: rest => quotedValue .plain rest
  | .plain, c :: rest => put [c] (quotedValue .plain rest)
  | .escape, c :: rest =>
      if c == 'n' then put ['\n'] (quotedValue .plain rest)
      else if c == 'r' then put ['\r'] (quotedValue .plain rest)
      else if c == 't' then put ['\t'] (quotedValue .plain rest)
      else if c == '0' then put (charOfCode 0) (quotedValue .plain rest)
      else if c == 'x' then quotedValue .hexFirst rest
      else if c == 'u' then quotedValue (.code 0) rest
      else if c == '\n' || c == '\r' then quotedValue .skip rest
      else put [c] (quotedValue .plain rest)
  | .hexFirst, c :: rest => quotedValue (.hexSecond ((hexValue? c).getD 0)) rest
  | .hexSecond first, c :: rest =>
      put (charOfCode (first * 16 + (hexValue? c).getD 0)) (quotedValue .plain rest)
  | .code value, c :: rest =>
      match hexValue? c with
      | some digit => quotedValue (.code (value * 16 + digit)) rest
      | none =>
          if c == '\x7d' then put (charOfCode value) (quotedValue .plain rest)
          else quotedValue (.code value) rest
  | .skip, c :: rest =>
      if isWhiteSpace c then quotedValue .skip rest
      else if c == '\"' then ([], rest)
      else if c == '\\' then quotedValue .escape rest
      else put [c] (quotedValue .plain rest)
where
  put (cs : List Char) (found : List Char × List Char) : List Char × List Char :=
    (cs ++ found.1, found.2)

def rawValue (hashes : Nat) : List Char → List Char × List Char
  | [] => ([], [])
  | c :: rest =>
      if c == '\"' && (List.replicate hashes '#').isPrefixOf rest then ([], rest.drop hashes)
      else let (value, after) := rawValue hashes rest; (c :: value, after)

def stringValue (text : String) : String × String :=
  let (value, suffix) :=
    match text.toList with
    | 'r' :: rest =>
        let hashes := (rest.takeWhile (· == '#')).length
        rawValue hashes (rest.drop (hashes + 1))
    | cs => quotedValue .plain (cs.drop 1)
  (String.ofList value, String.ofList suffix)

end Wiring.Grammar
