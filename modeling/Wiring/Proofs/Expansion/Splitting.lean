import Mathlib.Data.List.Infix
import Wiring.Expansion.Declare
import Wiring.Proofs.Grammar.Reading

/-!
# How a declaration attribute splits its arguments

The arguments that tokens write, as a function of the tokens alone. See `argumentsOf_eq_ok_iff`.
-/

set_option autoImplicit false

namespace Wiring.Expansion

open Wiring.Grammar
open Wiring.Grammar.Reader

def splitValue : Nat → List SyntaxTree → List SyntaxTree × List SyntaxTree
  | _, [] => ([], [])
  | depth, tree :: rest =>
      if depth == 0 && Ahead.punct "," (tree :: rest) then ([], tree :: rest)
      else
        let deeper :=
          if isMark "<" tree then depth + 1
          else if isMark ">" tree then depth - 1
          else depth
        (tree :: (splitValue deeper rest).1, (splitValue deeper rest).2)

def splitAfterName (tokens : List SyntaxTree) : Option (ArgumentValue × List SyntaxTree) :=
  if Ahead.punct "=" tokens then
    if (splitValue 0 (tokens.drop 1)).1.isEmpty then none
    else some (.assigned (splitValue 0 (tokens.drop 1)).1, (splitValue 0 (tokens.drop 1)).2)
  else
    match tokens with
    | .group .parenthesis body _ _ :: after => some (.listed body, after)
    | _ => some (.flag, tokens)

def splitArgument : List SyntaxTree → Option (Argument × List SyntaxTree)
  | .token .ident text _ _ :: rest =>
      if Ahead.keywords.contains text then none
      else (splitAfterName rest).map fun split => (⟨text, split.1⟩, split.2)
  | _ => none

/-- The arguments that some tokens write, up to where no argument follows, and whether that is at
their end. The number bounds the arguments. -/
def splitArguments : Nat → List SyntaxTree → List Argument × Bool
  | 0, _ => ([], false)
  | fuel + 1, tokens =>
      if tokens.isEmpty then ([], true)
      else
        match splitArgument tokens with
        | none => ([], false)
        | some (argument, after) =>
            if after.isEmpty then ([argument], true)
            else if Ahead.punct "," after then
              (argument :: (splitArguments fuel (after.drop 1)).1,
                (splitArguments fuel (after.drop 1)).2)
            else ([argument], false)

theorem splitValue_append (depth : Nat) (tokens : List SyntaxTree) :
    (splitValue depth tokens).1 ++ (splitValue depth tokens).2 = tokens := by
  induction tokens generalizing depth with
  | nil => rfl
  | cons tree rest ih =>
      rw [splitValue]
      split
      · rfl
      · rw [List.cons_append, ih]

theorem length_splitValue (depth : Nat) (tokens : List SyntaxTree) :
    (splitValue depth tokens).2.length ≤ tokens.length := by
  have whole := congrArg List.length (splitValue_append depth tokens)
  rw [List.length_append] at whole
  omega

section Readers

variable {scope : Scope} {leftOver : Option LeftOver}

theorem reads_valueTokens_loop (fuel depth : Nat) (done tokens : List SyntaxTree)
    (enough : tokens.length < fuel) :
    reads (valueTokens.loop fuel depth done) scope ⟨tokens, leftOver⟩ =
      some (done ++ (splitValue depth tokens).1, ⟨(splitValue depth tokens).2, leftOver⟩) := by
  induction fuel generalizing depth done tokens with
  | zero => cases enough
  | succ fuel ih =>
      rw [valueTokens.loop, reads_bind, reads_peek, Option.bind_some, reads_ite]
      dsimp only
      cases tokens with
      | nil =>
          have missing : Ahead.punct "," [] = false := by decide
          rw [missing, Bool.and_false, if_neg Bool.false_ne_true, reads_bind, reads_next?_nil]
          simp [splitValue]
      | cons tree rest =>
          rw [splitValue]
          split
          · simp
          · rw [reads_bind, reads_next?_cons, Option.bind_some]
            dsimp only
            rw [ih _ _ _ (Nat.lt_of_succ_lt_succ enough), List.append_assoc]
            rfl

theorem reads_valueTokens (tokens : List SyntaxTree) :
    reads valueTokens scope ⟨tokens, leftOver⟩ =
      some ((splitValue 0 tokens).1, ⟨(splitValue 0 tokens).2, leftOver⟩) := by
  rw [valueTokens, reads_bind, reads_ahead, Option.bind_some]
  exact reads_valueTokens_loop _ _ _ _ (Nat.lt_succ_self _)

theorem reads_argument (tokens : List SyntaxTree) :
    reads argument scope ⟨tokens, leftOver⟩ =
      (splitArgument tokens).map fun split => (split.1, ⟨split.2, leftOver⟩) := by
  unfold splitArgument argument
  rw [reads_bind]
  split
  · rename_i text line whole rest
    rw [reads_name_word]
    by_cases isKeyword : Ahead.keywords.contains text = true
    · rw [if_pos isKeyword, if_pos isKeyword]
      rfl
    · rw [if_neg isKeyword, if_neg isKeyword, Option.bind_some]
      dsimp only [SyntaxTree.text?, Option.getD_some]
      rw [reads_bind, reads_peek, Option.bind_some, reads_ite]
      dsimp only [splitAfterName]
      by_cases assigned : Ahead.punct "=" rest = true
      · rw [if_pos assigned, if_pos assigned, reads_bind,
          reads_punct_of assigned (rfl : _ = 1), Option.bind_some, reads_bind, reads_valueTokens,
          Option.bind_some, reads_ite, reads_refuse, reads_pure]
        dsimp only
        cases (splitValue 0 (rest.drop 1)).1.isEmpty <;> rfl
      · rw [if_neg assigned, if_neg assigned, reads_bind, reads_peek, Option.bind_some, reads_ite]
        dsimp only
        by_cases listed : Ahead.group .parenthesis rest = true
        · obtain ⟨body, openLine, closeLine, after, rfl⟩ := exists_of_group listed
          rw [if_pos listed, reads_bind, reads_group, reads_allTokens, Option.map_some]
          dsimp only
          rw [Option.or_none]
          rfl
        · rw [if_neg listed]
          split
          · exact absurd rfl listed
          · rfl
  · rename_i other
    rw [reads_name_of_not]
    · rfl
    · unfold Ahead.anyWord
      split
      · exact absurd rfl (other _ _ _ _)
      · rfl

theorem splitAfterName_shorter {tokens after : List SyntaxTree} {value : ArgumentValue}
    (split : splitAfterName tokens = some (value, after)) : after.length ≤ tokens.length := by
  unfold splitAfterName at split
  split at split
  · split at split
    · cases split
    · obtain ⟨-, rfl⟩ := Prod.mk.inj (Option.some.inj split)
      have shorter := length_splitValue 0 (tokens.drop 1)
      rw [List.length_drop] at shorter
      omega
  · split at split
    · obtain ⟨-, rfl⟩ := Prod.mk.inj (Option.some.inj split)
      exact Nat.le_succ _
    · obtain ⟨-, rfl⟩ := Prod.mk.inj (Option.some.inj split)
      exact Nat.le_refl _

theorem splitArgument_shorter {tokens after : List SyntaxTree} {argument : Argument}
    (split : splitArgument tokens = some (argument, after)) : after.length < tokens.length := by
  unfold splitArgument at split
  split at split
  · split at split
    · cases split
    · obtain ⟨⟨value, rest⟩, found, same⟩ := Option.map_eq_some_iff.mp split
      obtain ⟨-, rfl⟩ := Prod.mk.inj same
      exact Nat.lt_succ_of_le (splitAfterName_shorter found)
  · cases split

theorem reads_arguments_loop (fuel : Nat) (done : List Argument) (tokens : List SyntaxTree)
    (enough : tokens.length < fuel) (result : List Argument × ReaderState) :
    reads (arguments.loop fuel done) scope ⟨tokens, leftOver⟩ = some result ↔
      (splitArguments fuel tokens).2 = true ∧
        result = (done ++ (splitArguments fuel tokens).1, ⟨[], leftOver⟩) := by
  induction fuel generalizing done tokens with
  | zero => cases enough
  | succ fuel ih =>
      rw [arguments.loop, splitArguments, reads_bind, reads_isEmpty, Option.bind_some, reads_ite]
      dsimp only
      cases tokens with
      | nil => simp [eq_comm]
      | cons tree rest =>
          rw [List.isEmpty_cons, if_neg Bool.false_ne_true, if_neg Bool.false_ne_true, reads_bind,
            reads_argument]
          cases split : splitArgument (tree :: rest) with
          | none => simp
          | some found =>
              obtain ⟨argument, after⟩ := found
              rw [Option.map_some, Option.bind_some, reads_bind, reads_isEmpty, Option.bind_some,
                reads_ite]
              dsimp only
              cases after with
              | nil => simp [eq_comm]
              | cons next more =>
                  rw [List.isEmpty_cons, if_neg Bool.false_ne_true, if_neg Bool.false_ne_true,
                    reads_bind]
                  by_cases comma : Ahead.punct "," (next :: more) = true
                  · rw [if_pos comma, reads_punct_of comma (rfl : _ = 1), Option.bind_some]
                    have shorter := splitArgument_shorter split
                    have := ih (done ++ [argument]) more (by simp at shorter enough; omega)
                    simpa using this
                  · rw [if_neg comma, reads_punct_of_not (by simpa using comma)]
                    simp

end Readers

theorem argumentsOf_eq_ok_iff {tokens : List SyntaxTree} {written : List Argument} :
    argumentsOf tokens = .ok written ↔
      splitArguments (tokens.length + 1) tokens = (written, true) := by
  have read : argumentsOf tokens = .ok written ↔
      run arguments wholeText tokens = .ok written := by
    rw [argumentsOf, readAll]
    cases run arguments wholeText tokens <;> simp [Except.mapError]
  rw [read, run_eq_ok_iff, arguments, reads_bind, reads_ahead, Option.bind_some,
    reads_arguments_loop _ _ _ (Nat.lt_succ_self _), List.nil_append, Prod.mk.injEq]
  generalize splitArguments (tokens.length + 1) tokens = split
  obtain ⟨found, ended⟩ := split
  constructor
  · rintro ⟨rfl, rfl, -⟩
    rfl
  · rintro same
    cases same
    exact ⟨rfl, rfl, rfl⟩

end Wiring.Expansion
