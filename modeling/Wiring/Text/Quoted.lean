import Wiring.Text.Hidden

/-!
Texts between double quotes. A quotation mark and a backslash are written after a backslash, the
common controls by a letter, and every other hidden character by its code point in hexadecimal.
-/

set_option autoImplicit false

namespace Wiring.Text

def hexDigits (n : Nat) : List Char :=
  Nat.toDigits 16 n

theorem forall_mem_hexDigits {p : Char → Bool} (digits : ∀ d < 16, p (Nat.digitChar d) = true)
    (n : Nat) : ∀ c ∈ hexDigits n, p c = true := by
  induction n using Nat.strongRecOn with
  | ind n ih =>
      intro c member
      rw [hexDigits, Nat.toDigits_eq_if (by decide)] at member
      split at member
      · rename_i small
        rw [List.mem_singleton.mp member]
        exact digits n small
      · rename_i large
        rcases List.mem_append.mp member with front | last
        · exact ih (n / 16) (by omega) c front
        · rw [List.mem_singleton.mp last]
          exact digits (n % 16) (Nat.mod_lt n (by decide))

def escapeChar (c : Char) : List Char :=
  if c == '\"' then ['\\', '\"']
  else if c == '\\' then ['\\', '\\']
  else if c == '\n' then ['\\', 'n']
  else if c == '\r' then ['\\', 'r']
  else if c == '\t' then ['\\', 't']
  else if c.toNat == 0 then ['\\', '0']
  else if isHidden c then ['\\', 'u', '\x7b'] ++ hexDigits c.toNat ++ ['\x7d']
  else [c]

def quoted (text : String) : String :=
  String.ofList ('\"' :: text.toList.flatMap escapeChar ++ ['\"'])

def startsOctal : List Char → Bool
  | [] => false
  | c :: _ => '0' ≤ c && c ≤ '7'

/-- The characters of a string literal; a NUL before an octal digit takes its two-digit form. -/
def literalBody : List Char → List Char
  | [] => []
  | c :: rest =>
      if c.toNat == 0 && startsOctal rest then ['\\', 'x', '0', '0'] ++ literalBody rest
      else escapeChar c ++ literalBody rest

def stringLiteral (text : String) : String :=
  String.ofList ('\"' :: literalBody text.toList ++ ['\"'])

end Wiring.Text
