import Wiring.Proofs.Expansion.Dependencies
import Wiring.Proofs.Expansion.Integers

/-!
# Settled arguments

Arguments that a declaration attribute and discovery read alike, whatever stands behind them. See
`comes_skim`.
-/

set_option autoImplicit false

namespace Wiring.Expansion

open Wiring.Grammar
open Wiring.Grammar.Reader
open Wiring.Source

/-- Whether a type names one that leaves all its arguments open. -/
def namesOpenType (type : SyntaxTree) : Bool :=
  type.typePath?.any fun path => (openArity path).isOk

/-- What is asked of the value of an argument. A flag is assigned no truth value. An integer or a
type is one that discovery takes, if it is an expression or a type at all. Types and paths are
written without an arrow: a declaration attribute takes its tip for the end of angle brackets. A
list of paths is not empty and holds neither angle brackets nor keywords, and in what a dependency
is constructed with no operator follows a range that has a name. -/
def Settled (nested : Nested) : Form → ArgumentValue → Prop
  | .flag, .assigned found => ¬∃ tree, found = [tree] ∧ isTruth tree = true
  | .integer, .assigned found =>
      ∀ value, readAll (exprForm nested) found = .ok value → isInteger value = true
  | .type, .assigned found =>
      hasMark "->" found = false ∧
        ∀ type, readAll (typeForm nested) found = .ok type → namesOpenType type = true
  | .path, .assigned found => hasMark "->" found = false
  | .types, .listed body => body.isEmpty = false ∧ ∀ tree ∈ body, isPathToken tree = true
  | .dependencies, .listed body =>
      body.isEmpty = false ∧ (∀ tree ∈ body, isPathToken tree = true) ∧
        ∀ inner openLine closeLine, .group .parenthesis inner openLine closeLine ∈ body →
          RangesEnd nested inner
  | _, _ => True

section Values

variable {scope : Scope} {tokens found after : List SyntaxTree} {depth : Nat} {form : Form}

theorem sign_of_splitAfterName (split : splitAfterName tokens = some (.assigned found, after)) :
    Ahead.punct "=" tokens = true ∧ tokens.drop 1 = found ++ after := by
  unfold splitAfterName at split
  split at split
  · rename_i sign
    split at split
    · cases split
    · obtain ⟨value, rfl⟩ := Prod.mk.inj (Option.some.inj split)
      rw [← ArgumentValue.assigned.inj value]
      exact ⟨sign, (splitValue_append 0 _).symm⟩
  · split at split <;> cases split

instance replays_typeForm {room more enter : Nat} :
    Replays room more enter enter (typeForm (nonterminal depth)) (typeForm (nonterminal depth)) :=
  inferInstanceAs (Replays room more enter enter (nonterminal depth (.type true))
    (nonterminal depth (.type true)))

instance replays_pathForm {room more enter : Nat} :
    Replays room more enter enter (pathForm (nonterminal depth)) (pathForm (nonterminal depth)) :=
  inferInstanceAs (Replays room more enter enter (Reader.path (nonterminal depth) false)
    (Reader.path (nonterminal depth) false))

theorem comes_skim_type (deep : 6 ≤ depth)
    (settled : ∀ found after, splitAfterName tokens = some (.assigned found, after) →
      Settled (nonterminal depth) .type (.assigned found)) :
    Comes (exit (skim (nonterminal depth) .type) scope tokens)
      (passed (accepts (nonterminal depth) .type) tokens) := by
  rw [skim]
  refine comes_whole (fun (type : SyntaxTree) => type.typePath?.isSome)
    (fun tokens => exit_tested (fun (type : SyntaxTree) => type.typePath?.isSome)
      fun line value state => ?tested)
    (fun rest ends => (forms_refuse deep ends).1) fun found after splits split ends => ?portable
  case tested => cases value.typePath? <;> rfl
  case portable =>
    obtain ⟨noArrow, names⟩ := settled found after splits
    refine portable_of_replays split ends noArrow fun type read => ?_
    have names := names type read
    unfold namesOpenType at names
    cases named : type.typePath? with
    | none =>
        rw [named] at names
        cases names
    | some path => rfl

theorem comes_skim_path (deep : 6 ≤ depth)
    (settled : ∀ found after, splitAfterName tokens = some (.assigned found, after) →
      Settled (nonterminal depth) .path (.assigned found)) :
    Comes (exit (skim (nonterminal depth) .path) scope tokens)
      (passed (accepts (nonterminal depth) .path) tokens) := by
  rw [skim]
  refine comes_whole (fun _ => true) (fun tokens => ?through)
    (fun rest ends => (forms_refuse deep ends).2.2) fun found after splits split ends => ?portable
  case through =>
    rw [exit_then_pure, exit]
    cases reads (pathForm (nonterminal depth)) scope ⟨tokens, none⟩ <;> rfl
  case portable =>
    exact portable_of_replays split ends (settled found after splits) fun _ _ => rfl

/-- Discovery comes out after an argument of a form exactly if the declaration attribute accepts the
value and an argument may end there. -/
theorem comes_skim (deep : 16 ≤ depth)
    (settled : ∀ value after, splitAfterName tokens = some (value, after) →
      Settled (nonterminal depth) form value) :
    Comes (exit (skim (nonterminal depth) form) scope tokens)
      (passed (accepts (nonterminal depth) form) tokens) := by
  have enough : 6 ≤ depth := Nat.le_trans (by decide) deep
  cases form with
  | flag => exact comes_skim_flag _ fun found after split => settled _ after split
  | truth => exact comes_skim_truth _
  | verb => exact comes_skim_verb _
  | method => exact comes_skim_method _
  | integer => exact comes_skim_integer enough fun found after split => settled _ after split
  | types => exact comes_skim_types _ fun body after split => settled _ after split
  | dependencies => exact comes_skim_dependencies deep fun body after split => settled _ after split
  | type => exact comes_skim_type enough fun found after split => settled _ after split
  | path => exact comes_skim_path enough fun found after split => settled _ after split
  | text => exact comes_skim_text _
  | unknown => exact comes_skim_unknown _

/-! ## Checking arguments -/

def rangesEnd : SyntaxTree → Bool
  | .group .parenthesis inner _ _ => !hasMark ".." inner
  | _ => true

/-- A check that settles arguments. It takes any two dots for a range that may go on. -/
def isSettled (nested : Nested) : Form → ArgumentValue → Bool
  | .flag, .assigned found => !found.any isTruth
  | .integer, .assigned found => (readAll (exprForm nested) found).toOption.all isInteger
  | .type, .assigned found =>
      !hasMark "->" found && (readAll (typeForm nested) found).toOption.all namesOpenType
  | .path, .assigned found => !hasMark "->" found
  | .types, .listed body => !body.isEmpty && body.all isPathToken
  | .dependencies, .listed body =>
      !body.isEmpty && body.all fun tree => isPathToken tree && rangesEnd tree
  | _, _ => true

theorem settled_of_isSettled {value : ArgumentValue}
    (checked : isSettled (nonterminal depth) form value = true) :
    Settled (nonterminal depth) form value := by
  have passes {α : Type} {reader : Reader α} {test : α → Bool} {found : List SyntaxTree}
      (all : (readAll reader found).toOption.all test = true) (value : α)
      (read : readAll reader found = .ok value) : test value = true := by
    rw [read] at all
    exact all
  cases value with
  | flag => cases form <;> trivial
  | assigned found =>
      cases form with
      | flag =>
          rintro ⟨tree, rfl, truth⟩
          simp [isSettled, truth] at checked
      | integer => exact passes checked
      | type =>
          obtain ⟨noArrow, names⟩ := Bool.and_eq_true_iff.mp checked
          exact ⟨(Bool.not_eq_true' _).mp noArrow, passes names⟩
      | path => exact (Bool.not_eq_true' _).mp checked
      | truth | verb | method | types | dependencies | text | unknown => trivial
  | listed body =>
      cases form with
      | types =>
          obtain ⟨something, fit⟩ := Bool.and_eq_true_iff.mp checked
          exact ⟨(Bool.not_eq_true' _).mp something, List.all_eq_true.mp fit⟩
      | dependencies =>
          obtain ⟨something, fit⟩ := Bool.and_eq_true_iff.mp checked
          rw [List.all_eq_true] at fit
          refine ⟨(Bool.not_eq_true' _).mp something,
            fun tree found => (Bool.and_eq_true_iff.mp (fit tree found)).1,
            fun inner openLine closeLine found => rangesEnd_of_not_mark ?_⟩
          exact (Bool.not_eq_true' _).mp (Bool.and_eq_true_iff.mp (fit _ found)).2
      | flag | truth | verb | method | integer | type | path | text | unknown => trivial

end Values

end Wiring.Expansion
