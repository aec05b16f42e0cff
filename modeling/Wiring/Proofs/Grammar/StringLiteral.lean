import Wiring.Grammar.LiteralValue
import Wiring.Text.Quoted

/-!
# String literals

The literal that is written for a text denotes that text, whatever characters it has: see
`quotedValue_literalBody`.
-/

set_option autoImplicit false

namespace Wiring.Grammar

open Wiring.Text

/-! ## Escapes -/

theorem hexValue?_digitChar : ∀ digit < 16, hexValue? (Nat.digitChar digit) = some digit := by
  decide

theorem quotedValue_code_digit (value : Nat) {digit : Nat} (small : digit < 16)
    (rest : List Char) :
    quotedValue (.code value) (Nat.digitChar digit :: rest) =
      quotedValue (.code (value * 16 + digit)) rest := by
  rw [quotedValue, hexValue?_digitChar digit small]

theorem quotedValue_hexDigits (n : Nat) (rest : List Char) :
    quotedValue (.code 0) (hexDigits n ++ rest) = quotedValue (.code n) rest := by
  induction n using Nat.strongRecOn generalizing rest with
  | ind n ih =>
      rw [hexDigits, Nat.toDigits_eq_if (by decide)]
      split
      · rename_i small
        rw [List.singleton_append, quotedValue_code_digit 0 small, Nat.zero_mul, Nat.zero_add]
      · rename_i large
        have smaller : n / 16 < n := by omega
        have earlier := ih (n / 16) smaller (Nat.digitChar (n % 16) :: rest)
        rw [hexDigits] at earlier
        rw [List.append_assoc, List.singleton_append, earlier,
          quotedValue_code_digit _ (Nat.mod_lt n (by decide)), Nat.div_add_mod']

theorem charOfCode_toNat (c : Char) : charOfCode c.toNat = [c] := by
  have valid : c.toNat.isValidChar := c.valid
  rw [charOfCode, if_pos valid, Char.ofNat_toNat]

theorem eq_of_toNat_eq_zero {c : Char} (zero : c.toNat = 0) : c = '\x00' := by
  rw [← Char.ofNat_toNat c, zero]

theorem quotedValue_hidden (c : Char) (rest : List Char) :
    quotedValue .plain (['\\', 'u', '\x7b'] ++ hexDigits c.toNat ++ ['\x7d'] ++ rest) =
      quotedValue.put [c] (quotedValue .plain rest) := by
  have digits : quotedValue .plain (['\\', 'u', '\x7b'] ++ hexDigits c.toNat ++ ['\x7d'] ++ rest) =
      quotedValue (.code 0) (hexDigits c.toNat ++ '\x7d' :: rest) := by
    simp [quotedValue, hexValue?]
  rw [digits, quotedValue_hexDigits]
  simp [quotedValue, hexValue?, charOfCode_toNat]

theorem quotedValue_zero (rest : List Char) :
    quotedValue .plain ('\\' :: 'x' :: '0' :: '0' :: rest) =
      quotedValue.put ['\x00'] (quotedValue .plain rest) := by
  have value : charOfCode 0 = ['\x00'] := by decide
  simp [quotedValue, hexValue?, value]

theorem quotedValue_plain {c : Char} (quote : c ≠ '\"') (escape : c ≠ '\\') (line : c ≠ '\r')
    (rest : List Char) :
    quotedValue .plain (c :: rest) = quotedValue.put [c] (quotedValue .plain rest) := by
  rw [quotedValue] <;> assumption

theorem quotedValue_escapeChar (c : Char) (rest : List Char) :
    quotedValue .plain (escapeChar c ++ rest) =
      quotedValue.put [c] (quotedValue .plain rest) := by
  unfold escapeChar
  by_cases quote : c = '\"'
  · subst quote
    rfl
  by_cases escape : c = '\\'
  · subst escape
    rfl
  by_cases line : c = '\n'
  · subst line
    rfl
  by_cases start : c = '\r'
  · subst start
    rfl
  by_cases tab : c = '\t'
  · subst tab
    rfl
  by_cases zero : c.toNat = 0
  · rw [eq_of_toNat_eq_zero zero]
    rfl
  simp only [beq_iff_eq, quote, escape, line, start, tab, zero, if_false]
  split
  · exact quotedValue_hidden c rest
  · exact quotedValue_plain quote escape start rest

/-- What is written for characters reads as these characters, up to the quote that ends them. -/
theorem quotedValue_literalBody (cs rest : List Char) :
    quotedValue .plain (literalBody cs ++ '\"' :: rest) = (cs, rest) := by
  induction cs with
  | nil => rfl
  | cons c cs ih =>
      simp only [literalBody]
      split
      · rename_i octal
        rw [Bool.and_eq_true, beq_iff_eq] at octal
        rw [eq_of_toNat_eq_zero octal.1, List.append_assoc]
        simp only [List.cons_append, List.nil_append]
        rw [quotedValue_zero, ih]
        rfl
      · rw [List.append_assoc, quotedValue_escapeChar, ih]
        rfl

end Wiring.Grammar
