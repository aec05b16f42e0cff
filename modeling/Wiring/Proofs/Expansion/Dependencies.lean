import Wiring.Proofs.Expansion.Lists
import Wiring.Proofs.Grammar.Assignments
import Wiring.Proofs.Grammar.Operands

/-!
# Lists of dependencies

What a dependency is constructed with is a list of expressions to a declaration attribute. To
discovery a name with an equals sign behind it names the expression that follows. Both come out at
the same place unless a range stands behind the sign and an operator behind the range. See
`exit_commaList_iff` and `comes_skim_dependencies`.
-/

set_option autoImplicit false

namespace Wiring.Expansion

open Wiring.Grammar
open Wiring.Grammar.Reader
open Wiring.Source

/-! ## Values with names -/

/-- Whether a value with a name stands at the head of some tokens. -/
def namesValue (tokens : List SyntaxTree) : Bool :=
  Ahead.name tokens && Ahead.second (Ahead.punct "=") tokens &&
    !Ahead.second (Ahead.punct "==") tokens

/-- Whether no operator follows a range that is the value of a name. An operator there would take
the name and the range as its left side. -/
def RangesEnd (nested : Nested) (inner : List SyntaxTree) : Prop :=
  ∀ tokens, tokens <:+ inner → namesValue tokens = true → ∀ scope value after,
    reads (exprForm nested) scope ⟨tokens.drop 2, none⟩ = some (value, after) →
      value.hasKind .rangeExpr = true → Ahead.precedence after.rest = .lowest

theorem RangesEnd.of_suffix {nested : Nested} {inner rest : List SyntaxTree}
    (ends : RangesEnd nested inner) (suffix : rest <:+ inner) : RangesEnd nested rest :=
  fun tokens further => ends tokens (further.trans suffix)

/-- Without two dots there are no ranges. -/
theorem rangesEnd_of_not_mark {depth : Nat} {inner : List SyntaxTree}
    (noDots : hasMark ".." inner = false) : RangesEnd (nonterminal depth) inner := by
  intro tokens suffix _ scope value after read range
  have dots := hasMark_of_suffix ((List.drop_suffix 2 tokens).trans suffix)
    (hasMark_of_range read range)
  rw [noDots] at dots
  cases dots

section Arguments

variable {scope : Scope} {tokens rest : List SyntaxTree} {word : SyntaxTree} {nested : Nested}
  {state : ReaderState} {depth : Nat}

/-- Where an argument is read up to, unless what is read there is lost. -/
def arrival (exit : Option ReaderState) : Option (List SyntaxTree) :=
  exit.bind fun state =>
    if Astray state.rest ∨ state.leftOver.isSome = true then none else some state.rest

theorem comes_arrival (exit : Option ReaderState) : Comes exit (arrival exit) := by
  cases exit with
  | none => exact comes_none
  | some state =>
      rw [arrival, Option.bind_some]
      split
      · rename_i lost
        rintro _ ⟨⟩
        exact lost
      · rename_i found
        exact congrArg some (exists_of_not_lost found).1

theorem reads_referenceArgument_positional (unnamed : namesValue state.rest = false) :
    (reads (referenceArgument nested) scope state).map (·.2) =
      (reads (exprForm nested) scope state).map (·.2) := by
  rw [referenceArgument, reads_bind, reads_peek, Option.bind_some, reads_bind, reads_peek,
    Option.bind_some, reads_bind, reads_peek, Option.bind_some, reads_ite]
  rw [namesValue] at unnamed
  dsimp only
  rw [unnamed, if_neg Bool.false_ne_true]
  exact map_reads_then_pure _ _

theorem namesValue_cases (named : namesValue tokens = true) :
    ∃ word rest, tokens = word :: rest ∧ Ahead.name tokens = true ∧
      Ahead.punct "=" rest = true ∧ Ahead.punct "==" rest = false := by
  rw [namesValue, Bool.and_eq_true, Bool.and_eq_true, Bool.not_eq_true'] at named
  obtain ⟨⟨isName, sign⟩, single⟩ := named
  obtain ⟨text, line, whole, rest, rfl, -⟩ := exists_of_name isName
  exact ⟨_, rest, rfl, isName, sign, single⟩

theorem reads_referenceArgument_named {leftOver : Option LeftOver}
    (named : namesValue (word :: rest) = true) :
    (reads (referenceArgument nested) scope ⟨word :: rest, leftOver⟩).map (·.2) =
      (reads (exprForm nested) scope ⟨rest.drop 1, leftOver⟩).map (·.2) := by
  obtain ⟨_, _, same, isName, sign, -⟩ := namesValue_cases named
  obtain ⟨rfl, rfl⟩ := List.cons.inj same
  have taken : reads name scope ⟨word :: rest, leftOver⟩ = some (word, ⟨rest, leftOver⟩) := by
    obtain ⟨text, line, whole, rest, same, other⟩ := exists_of_name isName
    obtain ⟨rfl, rfl⟩ := List.cons.inj same
    rw [reads_name_word, other, if_neg Bool.false_ne_true]
  rw [referenceArgument, reads_bind, reads_peek, Option.bind_some, reads_bind, reads_peek,
    Option.bind_some, reads_bind, reads_peek, Option.bind_some, reads_ite]
  rw [namesValue] at named
  dsimp only
  rw [named, if_pos rfl, reads_bind, taken, Option.bind_some, reads_bind,
    reads_punct_of sign (rfl : _ = 1), Option.bind_some]
  exact map_reads_then_pure _ _

/-- The tip of an arrow begins no expression. -/
theorem reads_exprForm_of_tip (deep : 16 ≤ depth) (tip : Ahead.punct ">" tokens = true) :
    reads (exprForm (nonterminal depth)) scope ⟨tokens, none⟩ = none := by
  obtain ⟨depth, rfl⟩ := Nat.exists_eq_add_of_le' deep
  obtain ⟨kind, line, whole, rest, rfl, rfl | rfl⟩ := exists_of_mark rfl tip
  · rfl
  · rfl

theorem reads_operand_named {leftOver : Option LeftOver}
    (named : namesValue (word :: rest) = true) :
    reads (nonterminal (depth + 1) (.unary true)) scope ⟨word :: rest, leftOver⟩ =
      some (.node .pathExpr [.node .path [.node .segment [word]]], ⟨rest, leftOver⟩) := by
  obtain ⟨_, _, same, isName, sign, -⟩ := namesValue_cases named
  obtain ⟨rfl, rfl⟩ := List.cons.inj same
  exact reads_unary_name isName sign

/-- In front of an arrow a name is an expression of its own. -/
theorem reads_exprForm_of_arrow {leftOver : Option LeftOver}
    (named : namesValue (word :: rest) = true) (arrow : Ahead.punct "=>" rest = true) :
    ∃ value, reads (exprForm (nonterminal (depth + 2))) scope ⟨word :: rest, leftOver⟩ =
      some (value, ⟨rest, leftOver⟩) := by
  obtain ⟨_, _, same, -, sign, single⟩ := namesValue_cases named
  obtain ⟨rfl, rfl⟩ := List.cons.inj same
  have stops : Ahead.precedence rest = .lowest := by
    have further := not_further_of_assign sign
    rw [precedence_of_none (operator?_of_equals sign single), arrow, further.1, further.2]
    simp
  have whole : reads (exprForm (nonterminal (depth + 2))) scope ⟨word :: rest, leftOver⟩ =
      reads (nonterminal (depth + 1) (.unary true) >>= fun left =>
        climbs (nonterminal (depth + 1)) true left .lowest) scope ⟨word :: rest, leftOver⟩ := rfl
  rw [whole, reads_bind, reads_operand_named named, Option.bind_some]
  exact ⟨_, reads_climbs_of_lowest _ stops⟩

/-- What an assignment assigns ends where the assignment does. -/
theorem exit_exprForm_named (named : namesValue (word :: rest) = true)
    (noArrow : Ahead.punct "=>" rest = false)
    (ends : RangesEnd (nonterminal (depth + 2)) (word :: rest)) :
    exit (exprForm (nonterminal (depth + 2))) scope (word :: rest) =
      exit (exprForm (nonterminal (depth + 2))) scope (rest.drop 1) := by
  obtain ⟨_, _, same, -, sign, single⟩ := namesValue_cases named
  obtain ⟨rfl, rfl⟩ := List.cons.inj same
  have operand : reads (nonterminal (depth + 1) (.unary true)) scope ⟨word :: rest, none⟩ = _ :=
    reads_operand_named named
  obtain ⟨equals, assigned⟩ := reads_expr_assigned operand rfl sign single noArrow
  have form (tokens : List SyntaxTree) :
      reads (exprForm (nonterminal (depth + 2))) scope ⟨tokens, none⟩ =
        reads (expr (nonterminal (depth + 1)) true) scope ⟨tokens, none⟩ := rfl
  rw [exit, exit, form, assigned, form]
  cases read : reads (expr (nonterminal (depth + 1)) true) scope ⟨rest.drop 1, none⟩ with
  | none => rfl
  | some step =>
      obtain ⟨value, after⟩ := step
      have stops : Ahead.precedence after.rest = .lowest := by
        have climbed : reads (nonterminal (depth + 1) (.unary true) >>= fun left =>
            climbs (nonterminal (depth + 1)) true left .lowest) scope ⟨rest.drop 1, none⟩ =
              some (value, after) := read
        obtain ⟨left, between, -, climbed⟩ := exists_of_reads_bind climbed
        obtain range | stops := precedence_of_climbs climbed
        · exact ends _ (List.suffix_refl _) named scope value after read range
        · exact stops
      rw [Option.bind_some, reads_climbs_of_lowest _ stops]
      rfl

theorem astray_of_equals (sign : Ahead.punct "=" rest = true) : Astray rest := by
  obtain ⟨kind, line, whole, rest, rfl, rfl | rfl⟩ := exists_of_mark rfl sign
  · exact ⟨List.cons_ne_nil _ _, rfl⟩
  · exact ⟨List.cons_ne_nil _ _, rfl⟩

theorem tip_of_arrow (arrow : Ahead.punct "=>" rest = true) :
    Ahead.punct ">" (rest.drop 1) = true := by
  obtain ⟨line, whole, rest, rfl, tip⟩ :=
    exists_of_pair arrow (show "=>".toList = ['=', '>'] from rfl)
  exact tip

/-- Discovery and a declaration attribute come out alike behind one argument. -/
theorem comes_expr (deep : 16 ≤ depth) (ends : RangesEnd (nonterminal depth) tokens) :
    Comes (exit (exprForm (nonterminal depth)) scope tokens)
      (arrival (exit (referenceArgument (nonterminal depth)) scope tokens)) := by
  cases named : namesValue tokens with
  | false =>
      have same : exit (referenceArgument (nonterminal depth)) scope tokens =
          exit (exprForm (nonterminal depth)) scope tokens := by
        rw [exit, exit]
        exact reads_referenceArgument_positional named
      rw [same]
      exact comes_arrival _
  | true =>
      obtain ⟨word, rest, rfl, -, sign, -⟩ := namesValue_cases named
      have read : exit (referenceArgument (nonterminal depth)) scope (word :: rest) =
          exit (exprForm (nonterminal depth)) scope (rest.drop 1) :=
        reads_referenceArgument_named named
      rw [read]
      obtain ⟨less, rfl⟩ := Nat.exists_eq_add_of_le' (Nat.le_trans (by decide : 2 ≤ 16) deep)
      cases arrow : Ahead.punct "=>" rest with
      | false =>
          rw [exit_exprForm_named named arrow ends]
          exact comes_arrival _
      | true =>
          obtain ⟨value, head⟩ : ∃ value, reads (exprForm (nonterminal (less + 2))) scope
              ⟨word :: rest, none⟩ = some (value, ⟨rest, none⟩) :=
            reads_exprForm_of_arrow named arrow
          rw [exit, exit, reads_exprForm_of_tip deep (tip_of_arrow arrow)]
          intro state found
          obtain ⟨_, found⟩ := exit_eq_some_iff.mp found
          rw [head] at found
          obtain ⟨-, rfl⟩ := Prod.mk.inj (Option.some.inj found)
          exact .inl (astray_of_equals sign)

/-! ## Lists of values -/

/-- Reads an argument of a dependency for where it ends. -/
def referenceEnd (nested : Nested) : Reader SyntaxTree := do
  let _ ← referenceArgument nested
  return .node .otherExpr []

theorem exit_referenceEnd :
    exit (referenceEnd nested) scope tokens = exit (referenceArgument nested) scope tokens :=
  exit_then_pure _ _

/-- Arguments are read up to where a list of what they end at is. -/
theorem map_reads_referenceArguments_loop (fuel : Nat) (done : List ReferenceArgument)
    (trees : List SyntaxTree) :
    (reads (referenceArguments.loop nested fuel done) scope state).map (·.2) =
      (reads (separated.loop isEmpty (referenceEnd nested) (punct ",") fuel trees) scope
        state).map (·.2) := by
  induction fuel generalizing done trees state with
  | zero => rfl
  | succ fuel ih =>
      rw [referenceArguments.loop, separated.loop, referenceEnd]
      refine map_reads_bind_congr _ fun empty state => ?_
      rw [reads_ite, reads_ite]
      split
      · rfl
      · rw [bind_assoc]
        refine map_reads_bind_congr _ fun found state => ?_
        rw [pure_bind]
        refine map_reads_bind_congr _ fun empty state => ?_
        rw [reads_ite, reads_ite]
        split
        · rfl
        · exact map_reads_bind_congr _ fun _ _ => ih _ _

instance onward_exprForm [OnwardForms nested] : Onward (exprForm nested) :=
  inferInstanceAs (Onward (nested (.expr true)))

instance onward_referenceArgument [OnwardForms nested] : Onward (referenceArgument nested) := by
  unfold referenceArgument
  infer_instance

instance onward_referenceEnd [OnwardForms nested] : Onward (referenceEnd nested) := by
  unfold referenceEnd
  infer_instance

instance onward_rawReference [OnwardForms nested] (path : SyntaxTree) :
    Onward (rawReference nested path) := by
  unfold rawReference
  infer_instance

instance onward_dependency [OnwardForms nested] : Onward (dependency nested) := by
  unfold dependency
  infer_instance

theorem arrival_suffix {α : Type} {reader : Reader α} [onward : Onward reader]
    {after : List SyntaxTree} (ends : arrival (exit reader scope tokens) = some after) :
    after <:+ tokens := by
  obtain ⟨state, out, found⟩ := Option.bind_eq_some_iff.mp ends
  obtain ⟨value, read⟩ := exit_eq_some_iff.mp out
  obtain ⟨-, same⟩ := Option.ite_none_left_eq_some.mp found
  exact Option.some.inj same ▸ (onward.past read).suffix

/-- What a dependency is constructed with is read to its end by the check and by discovery, or by
neither of them. -/
theorem exit_exprs_iff (deep : 16 ≤ depth) (ends : RangesEnd (nonterminal depth) tokens) :
    exit (commaList (exprForm (nonterminal depth))) scope tokens = some ⟨[], none⟩ ↔
      exit (referenceArguments (nonterminal depth)) scope tokens = some ⟨[], none⟩ := by
  have unfolded : exit (referenceArguments (nonterminal depth)) scope tokens =
      exit (commaList (referenceEnd (nonterminal depth))) scope tokens := by
    rw [exit, exit, commaList, separated, referenceArguments, reads_bind, reads_bind, reads_ahead]
    exact map_reads_referenceArguments_loop _ _ _
  rw [unfolded]
  cases something : tokens.isEmpty with
  | true =>
      obtain rfl := List.isEmpty_iff.mp something
      exact iff_of_true (exit_commaList_nil _) (exit_commaList_nil _)
  | false =>
      have suffixes (tokens after : List SyntaxTree)
          (found : arrival (exit (referenceArgument (nonterminal depth)) scope tokens) =
            some after) : after <:+ tokens := arrival_suffix found
      rw [exit_commaList_iff something suffixes fun _ suffix =>
          comes_expr deep (ends.of_suffix suffix),
        exit_commaList_iff something suffixes fun _ _ => exit_referenceEnd ▸ comes_arrival _]

end Arguments

/-! ## Dependencies -/

/-- Whether what a dependency is constructed with is a list of expressions. -/
def constructs (nested : Nested) (inner : List SyntaxTree) (closeLine : Nat) : Bool :=
  (arrival (exit (commaList (exprForm nested)) ⟨closeLine, some .parenthesis⟩ inner)).any
    List.isEmpty

def afterPath (nested : Nested) : List SyntaxTree → Option (List SyntaxTree)
  | .group .parenthesis inner _ closeLine :: rest =>
      if constructs nested inner closeLine = true then some rest else none
  | tokens => some tokens

def dependencyEnd (nested : Nested) (tokens : List SyntaxTree) : Option (List SyntaxTree) :=
  (pathEnd tokens).bind (afterPath nested)

section Dependencies

variable {α β : Type} {scope : Scope} {tokens : List SyntaxTree} {nested : Nested} {depth : Nat}

theorem exit_eq_some_nil_iff (exit : Option ReaderState) :
    exit = some ⟨[], none⟩ ↔ (arrival exit).any List.isEmpty = true := by
  have comes := comes_arrival exit
  cases out : arrival exit with
  | none =>
      rw [out] at comes
      refine iff_of_false (fun finished => ?_) Bool.false_ne_true
      exact not_lost not_astray_nil (comes _ finished)
  | some after =>
      rw [out] at comes
      rw [show exit = some ⟨after, none⟩ from comes]
      simp

theorem afterPath_of_not_group (bare : Ahead.group .parenthesis tokens = false) :
    afterPath nested tokens = some tokens := by
  unfold afterPath
  split
  · cases bare
  · rfl

theorem dependencyEnd_suffix {after : List SyntaxTree}
    (ends : dependencyEnd nested tokens = some after) : after <:+ tokens := by
  obtain ⟨rest, path, further⟩ := Option.bind_eq_some_iff.mp ends
  refine List.IsSuffix.trans ?_ (pathEnd_suffix path)
  unfold afterPath at further
  split at further
  · split at further
    · obtain rfl := Option.some.inj further
      exact List.suffix_cons ..
    · cases further
  · obtain rfl := Option.some.inj further
    exact List.suffix_refl _

/-- A path and what may follow it in parentheses are read up to their end. -/
theorem comes_dependency {path : Reader α} {further : α → Reader β}
    (comes : PathComes (exit path scope tokens) (pathEnd tokens))
    (bare : ∀ value state, Ahead.group .parenthesis state.rest = false →
      (reads (further value) scope state).map (·.2) = some state)
    (grouped : ∀ value inner openLine closeLine rest,
      .group .parenthesis inner openLine closeLine ∈ tokens →
        Comes (exit (further value) scope (.group .parenthesis inner openLine closeLine :: rest))
          (if constructs nested inner closeLine = true then some rest else none)) :
    Comes (exit (path >>= further) scope tokens) (dependencyEnd nested tokens) := by
  rw [exit, reads_bind, dependencyEnd]
  cases ends : pathEnd tokens with
  | none =>
      rw [ends] at comes
      cases read : reads path scope ⟨tokens, none⟩ with
      | none => exact comes_none
      | some step =>
          have separator := comes step.2 (exit_eq_some_iff.mpr ⟨step.1, read⟩)
          obtain ⟨line, whole, rest, same, -⟩ := exists_of_separator separator
          rw [Option.bind_some, bare _ _ (by rw [same]; rfl)]
          exact comes_none_of_astray (astray_of_separator separator)
  | some after =>
      rw [ends] at comes
      obtain ⟨value, read⟩ := exit_eq_some_iff.mp comes
      rw [read, Option.bind_some, Option.bind_some]
      cases listed : Ahead.group .parenthesis after with
      | false =>
          rw [afterPath_of_not_group listed]
          exact bare value ⟨after, none⟩ listed
      | true =>
          obtain ⟨inner, openLine, closeLine, rest, rfl⟩ := exists_of_group listed
          exact grouped value inner openLine closeLine rest
            ((pathEnd_suffix ends).subset List.mem_cons_self)

theorem comes_checked_dependency (nested : Nested)
    (fit : ∀ tree ∈ tokens, isPathToken tree = true) :
    Comes (exit (dependency nested) scope tokens) (dependencyEnd nested tokens) := by
  refine comes_dependency (pathComes_pathForm _ (fits_of_all fit)) (fun path state bare => ?_)
    fun path inner openLine closeLine rest found => ?_
  · rw [reads_bind, reads_peek, Option.bind_some, reads_ite]
    dsimp only
    rw [bare]
    rfl
  · have unfolded : exit (groupOf .parenthesis (commaList (exprForm nested)) >>= fun _ => pure path)
          scope (.group .parenthesis inner openLine closeLine :: rest) =
        exit (group .parenthesis (commaList (exprForm nested))) scope
          (.group .parenthesis inner openLine closeLine :: rest) :=
      (exit_then_pure _ fun _ => path).trans
        (exit_then_pure (group .parenthesis (commaList (exprForm nested)))
          fun found : List SyntaxTree × Nat × Nat =>
            SyntaxTree.group .parenthesis found.1 found.2.1 found.2.2)
    rw [exit, reads_bind, reads_peek, Option.bind_some, reads_ite]
    show Comes (exit (groupOf .parenthesis (commaList (exprForm nested)) >>= fun _ => pure path)
      scope (.group .parenthesis inner openLine closeLine :: rest)) _
    rw [unfolded]
    exact comes_group (exit_eq_some_nil_iff _)

theorem comes_read_dependency (deep : 16 ≤ depth) (done : List RawReference)
    (ranges : ∀ inner openLine closeLine, .group .parenthesis inner openLine closeLine ∈ tokens →
      RangesEnd (nonterminal depth) inner) :
    Comes (exit (argumentPath >>= fun path =>
      rawReference (nonterminal depth) path >>= fun found => pure (done ++ [found])) scope tokens)
      (dependencyEnd (nonterminal depth) tokens) := by
  refine comes_dependency pathComes_argumentPath (fun path state bare => ?_)
    fun path inner openLine closeLine rest found => ?_
  · rw [map_reads_then_pure, rawReference, reads_bind, reads_peek, Option.bind_some, reads_ite]
    dsimp only
    rw [bare]
    rfl
  · rw [exit_then_pure, exit, rawReference, reads_bind, reads_peek, Option.bind_some, reads_ite]
    show Comes (exit (group .parenthesis (referenceArguments (nonterminal depth)) >>=
      fun found => pure (⟨path, found.1⟩ : RawReference)) scope
        (.group .parenthesis inner openLine closeLine :: rest)) _
    rw [exit_then_pure]
    refine comes_group ?_
    rw [← exit_exprs_iff deep (ranges inner openLine closeLine found)]
    exact exit_eq_some_nil_iff _

theorem comes_skim_dependencies (deep : 16 ≤ depth)
    (settled : ∀ body after, splitAfterName tokens = some (.listed body, after) →
      body.isEmpty = false ∧ (∀ tree ∈ body, isPathToken tree = true) ∧
        ∀ inner openLine closeLine, .group .parenthesis inner openLine closeLine ∈ body →
          RangesEnd (nonterminal depth) inner) :
    Comes (exit (skim (nonterminal depth) .dependencies) scope tokens)
      (passed (accepts (nonterminal depth) .dependencies) tokens) := by
  have checked (body : List SyntaxTree) :
      accepts (nonterminal depth) .dependencies (.listed body) =
        (readAll (commaList (dependency (nonterminal depth))) body).isOk := by
    show ((readAll _ body).map _).isOk = _
    cases readAll (commaList (dependency (nonterminal depth))) body <;> rfl
  have unfolded : exit (skim (nonterminal depth) .dependencies) scope tokens =
      exit (group .parenthesis (argumentList (fun path done =>
        rawReference (nonterminal depth) path >>= fun found => pure (done ++ [found])) []))
        scope tokens :=
    exit_then_pure (group .parenthesis (argumentList _ [])) fun _ => ()
  rw [unfolded]
  refine comes_listed rfl (fun _ => rfl) fun body after split inside => ?_
  obtain ⟨something, fits, ranges⟩ := settled body after split
  rw [checked]
  have ends (tokens after : List SyntaxTree)
      (found : dependencyEnd (nonterminal depth) tokens = some after) : after <:+ tokens :=
    dependencyEnd_suffix found
  refine list_agrees something ends (fun tokens suffix => ?_) fun tokens gathered suffix => ?_
  · exact comes_checked_dependency _ fun tree found => fits tree (suffix.subset found)
  · exact comes_read_dependency deep gathered fun inner openLine closeLine found =>
      ranges inner openLine closeLine (suffix.subset found)

end Dependencies

end Wiring.Expansion
