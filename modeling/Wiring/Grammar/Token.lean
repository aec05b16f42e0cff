import Wiring.Grammar.SyntaxTree
import Wiring.Grammar.Whole

/-!
Single tokens at the head of a text: punctuation, names, lifetimes and literals. Each of them is
whole.
-/

set_option autoImplicit false

namespace Wiring.Grammar

open Wiring.Text

def punctuation : List Char :=
  "~!@#$%^&*-=+|;:,<.>/?'".toList

/-- Whether a punctuation character stands at the head; the opening of a comment is none. -/
def startsPunct : List Char → Bool
  | '/' :: '/' :: _ => false
  | '/' :: '*' :: _ => false
  | c :: _ => punctuation.contains c
  | [] => false

def neverRaw : List String :=
  ["_", "super", "self", "Self", "crate"]

def anyIdentifierEnd? (cs : List Char) : Option (List Char) :=
  match cs with
  | 'r' :: '#' :: rest =>
      match identifierEnd? rest with
      | some after =>
          let name := String.ofList (rest.take (rest.length - after.length))
          if neverRaw.contains name then none else some after
      | none => none
  | _ => identifierEnd? cs

/-- Heads that announce a literal and so begin no identifier. -/
def literalLeads : List String :=
  ["r\"", "r#\"", "r##", "b\"", "b'", "br\"", "br#", "c\"", "cr\"", "cr#"]

def tokenEnd? (cs : List Char) : Option (TokenKind × List Char) :=
  match literalEnd? cs with
  | some rest => some (.literal, rest)
  | none =>
      match cs with
      | '\'' :: rest =>
          match anyIdentifierEnd? rest with
          | some ('\'' :: _) => none
          | some ('#' :: after) =>
              if (dropLead? "r#" rest).isSome then some (.lifetime, '#' :: after) else none
          | some after => some (.lifetime, after)
          | none => none
      | _ =>
          if startsPunct cs then
            let rest := cs.drop 1
            some (if startsPunct rest then .joined else .punct, rest)
          else if literalLeads.any fun lead => (dropLead? lead cs).isSome then none
          else (anyIdentifierEnd? cs).map fun rest => (.ident, rest)

/-! ## Tokens are whole -/

section Names

variable {place : Place} {cs rest : List Char}

theorem leaves_anyIdentifier (outside : place.isOutside = true)
    (ends : anyIdentifierEnd? cs = some rest) : place.Leaves cs rest := by
  unfold anyIdentifierEnd? at ends
  split at ends
  · rename_i body
    split at ends
    · rename_i after name
      obtain ⟨-, ends⟩ := Option.ite_none_left_eq_some.mp ends
      obtain rfl := Option.some.inj ends
      obtain ⟨first, beyond⟩ := Place.reaches_inert outside (c := 'r') rfl ('#' :: body)
      obtain ⟨second, further⟩ := Place.reaches_inert beyond (c := '#') rfl body
      exact (first.trans second).leaves (leaves_identifier further name)
    · cases ends
  · exact leaves_identifier outside ends

theorem leaves_tick_identifier (ends : identifierEnd? cs = some rest) :
    Place.tick.Leaves cs rest := by
  cases cs with
  | nil => cases ends
  | cons c cs =>
      simp only [identifierEnd?, Option.ite_none_right_eq_some] at ends
      obtain ⟨start, rest⟩ := ends
      obtain rfl := Option.some.inj rest
      have other : c ≠ '\\' := by
        rintro rfl
        exact absurd start (by decide)
      have ticked : Place.tick.step c = .ticked := by simp [Place.step, other]
      have first := Place.reaches_inside .tick rfl c cs
      rw [ticked] at first
      refine first.leaves ?_
      have outside : Place.ticked.isOutside = true := rfl
      have leaves := Place.leaves_inert outside (all_isInert_takeWhile cs)
        (cs.dropWhile isIdentifierContinue)
      rwa [List.takeWhile_append_dropWhile] at leaves

theorem leaves_lifetime (ends : anyIdentifierEnd? cs = some rest) :
    Place.tick.Leaves cs rest := by
  unfold anyIdentifierEnd? at ends
  split at ends
  · rename_i body
    split at ends
    · rename_i after name
      obtain ⟨-, ends⟩ := Option.ite_none_left_eq_some.mp ends
      obtain rfl := Option.some.inj ends
      have first := Place.reaches_inside .tick rfl 'r' ('#' :: body)
      have outside : Place.ticked.isOutside = true := rfl
      obtain ⟨second, beyond⟩ := Place.reaches_inert outside (c := '#') rfl body
      exact (first.trans second).leaves (leaves_identifier beyond name)
    · cases ends
  · exact leaves_tick_identifier ends

end Names

theorem isWhole_punctuation {c : Char} (member : c ∈ punctuation) (other : c ≠ '\'')
    (joined : Bool) : isWhole joined (String.ofList [c]) = true := by
  have all : (punctuation.all fun c =>
      c == '\'' || (isWhole true (String.ofList [c]) && isWhole false (String.ofList [c]))) =
      true := by decide
  have whole := List.all_eq_true.mp all c member
  cases joined <;> simp_all

theorem exists_of_startsPunct {cs : List Char} (starts : startsPunct cs = true) :
    ∃ c ∈ punctuation, ∃ rest, cs = c :: rest := by
  unfold startsPunct at starts
  split at starts
  · cases starts
  · cases starts
  · rename_i c rest _ _
    exact ⟨c, List.contains_iff_mem.mp starts, rest, rfl⟩
  · cases starts

theorem isWhole_of_tokenEnd? {cs rest : List Char} {kind : TokenKind}
    (ends : tokenEnd? cs = some (kind, rest)) :
    isWhole (kind == .joined) (frontOf cs rest) = true := by
  unfold tokenEnd? at ends
  split at ends
  · rename_i after literal
    cases ends
    exact isWhole_frontOf (leaves_literal literal)
  · split at ends
    · rename_i body _
      have tick := Place.reaches_plain .apart (c := '\'') rfl body
      split at ends
      · cases ends
      · rename_i after name
        obtain ⟨-, ends⟩ := Option.ite_none_right_eq_some.mp ends
        cases ends
        exact isWhole_frontOf (tick.leaves (leaves_lifetime name))
      · rename_i after _ name
        cases ends
        exact isWhole_frontOf (tick.leaves (leaves_lifetime name))
      · cases ends
    · rename_i noTick
      split at ends
      · rename_i punct
        obtain ⟨c, member, body, rfl⟩ := exists_of_startsPunct punct
        cases ends
        have front : frontOf (c :: body) body = String.ofList [c] := frontOf_append [c] body
        rw [List.drop_one, List.tail_cons, front]
        exact isWhole_punctuation member (fun same => noTick body (same ▸ rfl)) _
      · obtain ⟨-, ends⟩ := Option.ite_none_left_eq_some.mp ends
        obtain ⟨after, name, same⟩ := Option.map_eq_some_iff.mp ends
        cases same
        exact isWhole_frontOf (leaves_anyIdentifier rfl name)

end Wiring.Grammar
