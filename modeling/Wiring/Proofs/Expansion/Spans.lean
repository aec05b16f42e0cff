import Wiring.Proofs.Expansion.Splitting

/-!
# Where values end

A value ends at a comma outside angle brackets, or where nothing follows. Tokens that keep to their
angle brackets stand inside a value, unless there is an arrow among them, whose tip counts as a
bracket. See `Spans` and `Behind`.
-/

set_option autoImplicit false

namespace Wiring.Expansion

open Wiring.Grammar
open Wiring.Grammar.Reader

/-! ## Ends -/

/-- Whether neither an end nor a comma stands at the head of some tokens. -/
def Astray (tokens : List SyntaxTree) : Prop :=
  tokens ≠ [] ∧ Ahead.punct "," tokens = false

instance (tokens : List SyntaxTree) : Decidable (Astray tokens) :=
  inferInstanceAs (Decidable (_ ∧ _))

theorem punct_eq_isMark {text : String} (single : text.toList.length = 1) (tree : SyntaxTree)
    (rest : List SyntaxTree) : Ahead.punct text (tree :: rest) = isMark text tree := by
  obtain ⟨c, chars⟩ := List.length_eq_one_iff.mp single
  have same : String.singleton c = text := by
    rw [← String.toList_inj, chars, String.toList_singleton]
  rw [Ahead.punct, chars]
  cases tree with
  | token kind found line whole => cases kind <;> simp [Ahead.punctChars, isMark, same]
  | group delimiter body openLine closeLine => rfl
  | node kind parts => rfl

theorem exists_of_isMark {text : String} {tree : SyntaxTree} (found : isMark text tree = true) :
    ∃ kind line whole, tree = .token kind text line whole ∧ (kind = .punct ∨ kind = .joined) := by
  unfold isMark at found
  split at found
  · obtain rfl := eq_of_beq found
    exact ⟨_, _, _, rfl, .inl rfl⟩
  · obtain rfl := eq_of_beq found
    exact ⟨_, _, _, rfl, .inr rfl⟩
  · cases found

theorem exists_of_mark {text : String} (single : text.toList.length = 1)
    {tokens : List SyntaxTree} (found : Ahead.punct text tokens = true) :
    ∃ kind line whole rest, tokens = .token kind text line whole :: rest ∧
      (kind = .punct ∨ kind = .joined) := by
  cases tokens with
  | nil =>
      obtain ⟨c, chars⟩ := List.length_eq_one_iff.mp single
      rw [Ahead.punct, chars] at found
      cases found
  | cons tree rest =>
      rw [punct_eq_isMark single] at found
      obtain ⟨kind, line, whole, rfl, kinds⟩ := exists_of_isMark found
      exact ⟨kind, line, whole, rest, rfl, kinds⟩

theorem not_astray_iff {tokens : List SyntaxTree} :
    ¬Astray tokens ↔ tokens = [] ∨ Ahead.punct "," tokens = true := by
  unfold Astray
  cases Ahead.punct "," tokens <;> simp

/-- Where an argument may end there is nothing more, or a comma, which may be joined to what follows
it. -/
theorem end_cases {after : List SyntaxTree} (ends : ¬Astray after) :
    after = [] ∨ (∃ line whole rest, after = .token .punct "," line whole :: rest) ∨
      ∃ line whole rest, after = .token .joined "," line whole :: rest := by
  obtain nothing | comma := not_astray_iff.mp ends
  · exact .inl nothing
  · obtain ⟨kind, line, whole, rest, rfl, rfl | rfl⟩ := exists_of_mark rfl comma
    · exact .inr (.inl ⟨line, whole, rest, rfl⟩)
    · exact .inr (.inr ⟨line, whole, rest, rfl⟩)

theorem not_astray_splitValue (tokens : List SyntaxTree) : ¬Astray (splitValue 0 tokens).2 := by
  suffices general : ∀ depth, ¬Astray (splitValue depth tokens).2 from general 0
  induction tokens with
  | nil => simp [splitValue, Astray]
  | cons tree rest ih =>
      intro depth
      rw [splitValue]
      split
      · rename_i ends
        rw [Bool.and_eq_true] at ends
        exact not_astray_iff.mpr (.inr ends.2)
      · exact ih _

theorem astray_of_splitValue {tokens : List SyntaxTree} (more : (splitValue 0 tokens).1 ≠ []) :
    Astray tokens := by
  cases tokens with
  | nil => exact absurd rfl more
  | cons tree rest =>
      refine ⟨List.cons_ne_nil _ _, Bool.eq_false_iff.mpr fun comma => more ?_⟩
      rw [splitValue, comma]
      rfl

/-- Whether a token is neither an angle bracket nor a comma. -/
def isPlain (tree : SyntaxTree) : Bool :=
  !isMark "<" tree && !isMark ">" tree && !isMark "," tree

section Splits

variable {enter inside leave : Nat} {front further tokens : List SyntaxTree} {tree : SyntaxTree}

theorem splitValue_plain (depth : Nat) (plain : isPlain tree = true) (rest : List SyntaxTree) :
    splitValue depth (tree :: rest) =
      (tree :: (splitValue depth rest).1, (splitValue depth rest).2) := by
  simp only [isPlain, Bool.and_eq_true, Bool.not_eq_true'] at plain
  obtain ⟨⟨opens, closes⟩, comma⟩ := plain
  rw [splitValue, punct_eq_isMark rfl, comma, Bool.and_false, if_neg Bool.false_ne_true]
  dsimp only
  rw [opens, closes, if_neg Bool.false_ne_true, if_neg Bool.false_ne_true]

/-- Whether some tokens take a value from one depth of angle brackets to another and end it
nowhere, unless there is an arrow, whose tip would count as a bracket. -/
def Spans (enter leave : Nat) (front : List SyntaxTree) : Prop :=
  ∀ depth after, hasMark "->" (splitValue (depth + enter) (front ++ after)).1 = true ∨
    splitValue (depth + enter) (front ++ after) =
      (front ++ (splitValue (depth + leave) after).1, (splitValue (depth + leave) after).2)

theorem Spans.nil (enter : Nat) : Spans enter enter [] :=
  fun _ _ => .inr rfl

theorem Spans.append (left : Spans enter inside front) (right : Spans inside leave further) :
    Spans enter leave (front ++ further) := by
  intro depth after
  rw [List.append_assoc]
  obtain arrow | split := left depth (further ++ after)
  · exact .inl arrow
  · rw [split]
    obtain arrow | split := right depth after
    · exact .inl (hasMark_of_suffix (List.suffix_append ..) arrow)
    · rw [split, List.append_assoc]
      exact .inr rfl

theorem splitValue_append_plain (depth : Nat) (plain : ∀ tree ∈ front, isPlain tree = true)
    (after : List SyntaxTree) :
    splitValue depth (front ++ after) =
      (front ++ (splitValue depth after).1, (splitValue depth after).2) := by
  induction front with
  | nil => rfl
  | cons tree rest ih =>
      rw [List.cons_append, splitValue_plain _ (plain tree List.mem_cons_self),
        ih fun tree found => plain tree (List.mem_cons_of_mem _ found)]
      rfl

theorem Spans.plain (enter : Nat) (plain : ∀ tree ∈ front, isPlain tree = true) :
    Spans enter enter front :=
  fun _ after => .inr (splitValue_append_plain _ plain after)

theorem Spans.opens (opens : isMark "<" tree = true) : Spans enter (enter + 1) [tree] := by
  intro depth after
  refine .inr ?_
  have comma : isMark "," tree = false := by
    obtain ⟨kind, line, whole, rfl, rfl | rfl⟩ := exists_of_isMark opens <;> rfl
  rw [List.singleton_append, splitValue, punct_eq_isMark rfl, comma, Bool.and_false,
    if_neg Bool.false_ne_true]
  dsimp only
  rw [if_pos opens]
  rfl

theorem Spans.closes (closes : isMark ">" tree = true) : Spans (leave + 1) leave [tree] := by
  intro depth after
  refine .inr ?_
  have others : isMark "," tree = false ∧ isMark "<" tree = false := by
    obtain ⟨kind, line, whole, rfl, rfl | rfl⟩ := exists_of_isMark closes <;> exact ⟨rfl, rfl⟩
  rw [List.singleton_append, splitValue, punct_eq_isMark rfl, others.1, Bool.and_false,
    if_neg Bool.false_ne_true]
  dsimp only
  rw [others.2, if_neg Bool.false_ne_true, if_pos closes]
  rfl

theorem Spans.comma (comma : isMark "," tree = true) : Spans (enter + 1) (enter + 1) [tree] := by
  intro depth after
  refine .inr ?_
  have others : isMark "<" tree = false ∧ isMark ">" tree = false := by
    obtain ⟨kind, line, whole, rfl, rfl | rfl⟩ := exists_of_isMark comma <;> exact ⟨rfl, rfl⟩
  rw [List.singleton_append, splitValue, if_neg (by simp)]
  dsimp only
  rw [others.1, others.2, if_neg Bool.false_ne_true, if_neg Bool.false_ne_true]
  rfl

/-- Tokens that close an angle bracket are not none. -/
theorem Spans.ne_nil (spans : Spans (enter + 1) 0 front) : front ≠ [] := by
  rintro rfl
  have comma := spans 0 [.token .punct "," 0 (by decide)]
  have alone : hasMark "->"
      (splitValue (0 + (enter + 1)) ([] ++ [.token .punct "," 0 (by decide)])).1 = false := by
    simp [splitValue, hasMark, Ahead.punct, Ahead.punctChars]
  rw [alone] at comma
  simp [splitValue, Ahead.punct, Ahead.punctChars] at comma

end Splits

/-- Whether tokens begin alike, up to where an argument may end. Inside angle brackets they have at
least one token in common. -/
def Behind (inside : Nat) (left right : List SyntaxTree) : Prop :=
  ∃ common one other, left = common ++ one ∧ right = common ++ other ∧ ¬Astray one ∧
    ¬Astray other ∧ (inside ≠ 0 → common ≠ [])

section Behind

variable {inside leave : Nat} {left right : List SyntaxTree}

theorem Behind.append (front : List SyntaxTree) (behind : Behind leave left right)
    (closer : inside ≠ 0 → leave ≠ 0 ∨ front ≠ []) :
    Behind inside (front ++ left) (front ++ right) := by
  obtain ⟨common, one, other, rfl, rfl, ends, ends', shared⟩ := behind
  refine ⟨front ++ common, one, other, by simp, by simp, ends, ends', fun deep => ?_⟩
  obtain deep | more := closer deep
  · simp [shared deep]
  · simp [more]

theorem Behind.outside (behind : Behind inside left right) : Behind 0 left right := by
  obtain ⟨common, one, other, same, same', ends, ends', -⟩ := behind
  exact ⟨common, one, other, same, same', ends, ends', fun impossible => absurd rfl impossible⟩

theorem Behind.cases (behind : Behind inside left right) :
    (¬Astray left ∧ ¬Astray right ∧ inside = 0) ∨
      ∃ tree left' right', left = tree :: left' ∧ right = tree :: right' ∧
        Behind 0 left' right' := by
  obtain ⟨common, one, other, rfl, rfl, ends, ends', shared⟩ := behind
  cases common with
  | nil =>
      refine .inl ⟨ends, ends', ?_⟩
      by_contra deep
      exact shared deep rfl
  | cons tree rest =>
      exact .inr ⟨tree, _, _, rfl, rfl, rest, one, other, rfl, rfl, ends, ends', by simp⟩

end Behind

end Wiring.Expansion
