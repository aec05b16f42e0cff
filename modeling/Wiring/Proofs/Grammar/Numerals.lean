import Wiring.Grammar.LiteralValue
import Wiring.Proofs.Grammar.Words

/-!
# Decimal numerals

A number in decimal is one literal token, and the literal denotes the number. See
`integerLiteral?_toString` and `lexemesFrom_toString`.
-/

set_option autoImplicit false

namespace Wiring.Grammar

open Wiring.Text

/-! ## Digits -/

section Digits

variable {digits rest : List Char}

theorem toList_toString (n : Nat) : (toString n).toList = Nat.toDigits 10 n := by
  rw [Nat.toString_eq_ofList_toDigits, String.toList_ofList]

theorem all_isDigit_toString (n : Nat) : ∀ c ∈ (toString n).toList, c.isDigit = true := by
  rw [toList_toString]
  exact fun c member => Nat.isDigit_of_mem_toDigits (by decide) (by decide) member

theorem toNat_of_isDigit {c : Char} (digit : c.isDigit = true) : 48 ≤ c.toNat ∧ c.toNat ≤ 57 := by
  simp only [Char.isDigit, Bool.and_eq_true, decide_eq_true_eq, UInt32.le_iff_toNat_le] at digit
  exact digit

theorem digit_lt {c : Char} (digit : c.isDigit = true) : c.toNat - '0'.toNat < 10 := by
  have bounds := toNat_of_isDigit digit
  have zero : '0'.toNat = 48 := rfl
  omega

theorem toString_nat_inj {left right : Nat} (same : toString left = toString right) :
    left = right := by
  have digits := congrArg (fun text => Nat.ofDigitChars 10 text.toList 0) same
  simpa only [toList_toString, Nat.ofDigitChars_ten_toDigits] using digits

/-! ## Values -/

theorem integerDigits?_append (all : ∀ c ∈ digits, c.isDigit = true) (value : Nat)
    (hasDigit : Bool) (rest : List Char) :
    integerDigits? 10 value hasDigit (digits ++ rest) =
      integerDigits? 10 (Nat.ofDigitChars 10 digits value) (hasDigit || !digits.isEmpty) rest := by
  induction digits generalizing value hasDigit with
  | nil => simp [Nat.ofDigitChars]
  | cons c digits ih =>
      obtain ⟨digit, all⟩ := List.forall_mem_cons.mp all
      rw [List.cons_append, integerDigits?]
      dsimp only
      rw [if_pos digit, if_pos (digit_lt digit), ih all, Nat.ofDigitChars_cons, Nat.mul_comm 10]
      simp

theorem integerLiteral?_decimal {text : String} (plain : ∀ c ∈ text.toList, c ∉ ['x', 'o', 'b']) :
    integerLiteral? text = integerDigits? 10 0 false text.toList := by
  unfold integerLiteral?
  split
  · rename_i same
    exact absurd (by decide) (plain 'x' (by rw [same]; simp))
  · rename_i same
    exact absurd (by decide) (plain 'o' (by rw [same]; simp))
  · rename_i same
    exact absurd (by decide) (plain 'b' (by rw [same]; simp))
  · rfl

theorem integerLiteral?_toString_append (n : Nat) {suffix : String}
    (plain : ∀ c ∈ suffix.toList, c ∉ ['x', 'o', 'b']) :
    integerLiteral? (toString n ++ suffix) = integerDigits? 10 n true suffix.toList := by
  have digits := all_isDigit_toString n
  rw [integerLiteral?_decimal, String.toList_append, integerDigits?_append digits, toList_toString,
    Nat.ofDigitChars_ten_toDigits]
  · rw [List.isEmpty_eq_false_iff.mpr Nat.toDigits_ne_nil]
    rfl
  · intro c member
    rw [String.toList_append, List.mem_append] at member
    rcases member with inDigits | inSuffix
    · intro base
      have digit := digits c inDigits
      simp only [List.mem_cons, List.not_mem_nil, or_false] at base
      rcases base with rfl | rfl | rfl <;> exact absurd digit (by decide)
    · exact plain c inSuffix

theorem integerLiteral?_toString (n : Nat) : integerLiteral? (toString n) = some ⟨n, ""⟩ := by
  have plain : ∀ c ∈ "".toList, c ∉ ['x', 'o', 'b'] := by simp
  have denoted := integerLiteral?_toString_append n plain
  rwa [String.append_empty] at denoted

/-! ## Tokens -/

theorem dropLead?_of_digit {lead : String} {head c : Char} {tail text : List Char}
    (begins : lead.toList = head :: tail) (noDigit : head.isDigit = false)
    (digit : c.isDigit = true) : dropLead? lead (c :: text) = none := by
  have apart : (head == c) = false := by
    rw [beq_eq_false_iff_ne]
    rintro rfl
    rw [digit] at noDigit
    cases noDigit
  rw [dropLead?, begins, List.isPrefixOf_cons_cons, apart]
  rfl

theorem floatDigitsEnd?_of_digits (all : ∀ c ∈ digits, c.isDigit = true) :
    floatDigitsEnd? false digits = none := by
  induction digits with
  | nil => rfl
  | cons c digits ih =>
      obtain ⟨digit, all⟩ := List.forall_mem_cons.mp all
      unfold floatDigitsEnd?
      rw [digit, Bool.true_or, if_pos rfl, ih all]

theorem intDigitsEnd?_of_digits (all : ∀ c ∈ digits, c.isDigit = true) (hasDigit : Bool) :
    intDigitsEnd? 10 hasDigit digits = some (hasDigit || !digits.isEmpty, []) := by
  induction digits generalizing hasDigit with
  | nil => simp [intDigitsEnd?]
  | cons c digits ih =>
      obtain ⟨digit, all⟩ := List.forall_mem_cons.mp all
      rw [intDigitsEnd?, if_pos digit, if_pos (digit_lt digit), ih all]
      simp

theorem intEnd?_of_digits (nonempty : digits ≠ []) (all : ∀ c ∈ digits, c.isDigit = true) :
    intEnd? digits = some [] := by
  have ends := intDigitsEnd?_of_digits all false
  have some_digits : digits.isEmpty = false := by simpa using nonempty
  rw [some_digits] at ends
  have based (base : Char) (rest : List Char) (same : digits = '0' :: base :: rest) :
      base.isDigit = true := all base (by simp [same])
  unfold intEnd?
  split
  · exact absurd (based _ _ rfl) (by decide)
  · exact absurd (based _ _ rfl) (by decide)
  · exact absurd (based _ _ rfl) (by decide)
  · rw [ends]
    rfl

theorem tokenEnd?_of_digits (nonempty : digits ≠ []) (all : ∀ c ∈ digits, c.isDigit = true) :
    tokenEnd? digits = some (.literal, []) := by
  obtain ⟨c, cs, rfl⟩ := List.exists_cons_of_ne_nil nonempty
  have digit := all c List.mem_cons_self
  have noLead (lead : String) {head : Char} {tail : List Char}
      (begins : lead.toList = head :: tail) (noDigit : head.isDigit = false) :
      dropLead? lead (c :: cs) = none := dropLead?_of_digit begins noDigit digit
  have float : floatEnd? (c :: cs) = none := by
    rw [floatEnd?, if_pos digit, floatDigitsEnd?_of_digits (List.forall_mem_cons.mp all).2]
  have literal : literalEnd? (c :: cs) = some [] := by
    simp only [literalEnd?, StringForm.literalEnd?]
    rw [noLead "\"" rfl rfl, noLead "r" rfl rfl, noLead "b\"" rfl rfl,
      noLead "br" rfl rfl, noLead "c\"" rfl rfl, noLead "cr" rfl rfl,
      noLead "b'" rfl rfl, noLead "'" rfl rfl, float,
      intEnd?_of_digits nonempty all]
    rfl
  unfold tokenEnd?
  rw [literal]

/-! ## Lexemes -/

theorem ne_of_isDigit {c other : Char} (digit : c.isDigit = true)
    (noDigit : other.isDigit = false) : c ≠ other := by
  rintro rfl
  rw [digit] at noDigit
  cases noDigit

theorem blankEnd?_of_isDigit {c : Char} (digit : c.isDigit = true) (text : List Char) :
    blankEnd? (c :: text) = none := by
  have noBlanks : ∀ n < 58, 48 ≤ n → isBlank (Char.ofNat n) = false := by decide
  have bounds := toNat_of_isDigit digit
  have noBlank := noBlanks c.toNat (by omega) bounds.1
  rw [Char.ofNat_toNat] at noBlank
  have noSlash : c ≠ '/' := ne_of_isDigit digit rfl
  unfold blankEnd?
  split <;> simp_all

theorem not_startsPunct_of_isDigit {c : Char} (digit : c.isDigit = true) (text : List Char) :
    startsPunct (c :: text) = false := by
  have noPunct : ∀ n < 58, 48 ≤ n → punctuation.contains (Char.ofNat n) = false := by decide
  have bounds := toNat_of_isDigit digit
  have apart := noPunct c.toNat (by omega) bounds.1
  rw [Char.ofNat_toNat] at apart
  have noSlash : c ≠ '/' := ne_of_isDigit digit rfl
  unfold startsPunct
  split <;> simp_all

theorem not_startsPunct_toString (n : Nat) : startsPunct (toString n).toList = false := by
  have all := all_isDigit_toString n
  cases begins : (toString n).toList with
  | nil => rfl
  | cons c cs => exact not_startsPunct_of_isDigit (all c (begins ▸ List.mem_cons_self)) cs

theorem lexemesFrom_mark (line fuel : Nat) {gap rest : List Char} (spaces : ∀ c ∈ gap, c = ' ')
    {mark : Char} (isMark : mark = '=' ∨ mark = '-') (apart : startsPunct rest = false) :
    ∃ whole, lexemesFrom (fuel + 1) line (gap ++ ([mark] ++ rest)) =
      .tree (.token .punct (String.singleton mark) line whole) :: lexemesFrom fuel line rest := by
  have alone : (if startsPunct rest then TokenKind.joined else TokenKind.punct) = .punct := by
    rw [apart]
    rfl
  obtain ⟨whole, next⟩ : ∃ whole, nextLexemes line (mark :: rest) =
      ([.tree (.token .punct (String.singleton mark) line whole)], rest) := by
    rw [← alone]
    rcases isMark with rfl | rfl
    · exact nextLexemes_token line rfl (by decide) (by decide) rfl (frontOf_append ['='] rest)
    · exact nextLexemes_token line rfl (by decide) (by decide) rfl (frontOf_append ['-'] rest)
  refine ⟨whole, lexemesFrom_token line fuel spaces (List.cons_ne_nil _ _) ?_ ?_ next⟩
  · rcases isMark with rfl | rfl <;> decide
  · rcases isMark with rfl | rfl <;> rfl

theorem lexemesFrom_toString (line fuel : Nat) {gap : List Char} (spaces : ∀ c ∈ gap, c = ' ')
    (n : Nat) :
    ∃ whole, lexemesFrom (fuel + 1) line (gap ++ (toString n).toList) =
      [.tree (.token .literal (toString n) line whole)] := by
  have all := all_isDigit_toString n
  have nonempty : (toString n).toList ≠ [] := by
    rw [toList_toString]
    exact Nat.toDigits_ne_nil
  obtain ⟨c, cs, begins⟩ := List.exists_cons_of_ne_nil nonempty
  have digit : c.isDigit = true := all c (by rw [begins]; exact List.mem_cons_self)
  have other (mark : Char) (noDigit : mark.isDigit = false) : c ≠ mark :=
    ne_of_isDigit digit noDigit
  have taken : frontOf (toString n).toList [] = toString n := by
    have whole := frontOf_append (toString n).toList []
    rwa [List.append_nil, String.ofList_toList] at whole
  have noBracket : c ∉ ['(', ')', '[', ']', '\x7b', '\x7d'] := by
    simp [other '(' rfl, other ')' rfl, other '[' rfl,
      other ']' rfl, other '\x7b' rfl, other '\x7d' rfl]
  obtain ⟨whole, next⟩ := nextLexemes_token line begins (other _ rfl) noBracket
    (tokenEnd?_of_digits nonempty all) taken
  have starts : blankEnd? (toString n).toList = none := by
    rw [begins]
    exact blankEnd?_of_isDigit digit cs
  have noBreak : '\n' ∉ (toString n).toList := fun member => absurd (all _ member) (by decide)
  rw [← List.append_nil (toString n).toList] at starts next
  have lexed := lexemesFrom_token line fuel spaces nonempty noBreak starts next
  rw [List.append_nil, lexemesFrom_nil] at lexed
  exact ⟨whole, lexed⟩

end Digits

end Wiring.Grammar
