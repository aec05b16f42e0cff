import Wiring.Proofs.Expansion.Paths

/-!
# Lists of paths

A declaration attribute and discovery read the paths of a list with readers of their own. Here is
where each of them comes out, and that it is the same place for the paths that both can read. See
`list_agrees`.
-/

set_option autoImplicit false

namespace Wiring.Expansion

open Wiring.Grammar
open Wiring.Grammar.Reader
open Wiring.Source

/-! ## Elements with commas between them -/

/-- Whether elements with commas between them reach the end of some tokens; a comma may follow the
last. The number bounds the elements. -/
def listEnds (element : List SyntaxTree → Option (List SyntaxTree)) :
    Nat → List SyntaxTree → Bool
  | 0, _ => false
  | fuel + 1, tokens =>
      match element tokens with
      | none => false
      | some after =>
          after.isEmpty || (Ahead.punct "," after &&
            ((after.drop 1).isEmpty || listEnds element fuel (after.drop 1)))

section Lists

variable {σ : Type} {scope : Scope} {element : List SyntaxTree → Option (List SyntaxTree)}

theorem not_nil_of_comma {tokens : List SyntaxTree} (comma : Ahead.punct "," tokens = true) :
    tokens.isEmpty = false := by
  cases tokens with
  | nil => cases comma
  | cons tree rest => rfl

section Ends

variable {fuel : Nat} {tokens after : List SyntaxTree}
  {element : List SyntaxTree → Option (List SyntaxTree)}

theorem listEnds_of_none (ends : element tokens = none) :
    listEnds element (fuel + 1) tokens = false := by
  rw [listEnds, ends]

theorem listEnds_of_nil (ends : element tokens = some []) :
    listEnds element (fuel + 1) tokens = true := by
  rw [listEnds, ends]
  rfl

theorem listEnds_of_astray (ends : element tokens = some after) (astray : Astray after) :
    listEnds element (fuel + 1) tokens = false := by
  rw [listEnds, ends]
  dsimp only
  rw [astray.2, Bool.false_and, Bool.or_false]
  exact List.isEmpty_eq_false_iff.mpr astray.1

theorem listEnds_of_comma (ends : element tokens = some after)
    (comma : Ahead.punct "," after = true) :
    listEnds element (fuel + 1) tokens =
      ((after.drop 1).isEmpty || listEnds element fuel (after.drop 1)) := by
  rw [listEnds, ends]
  dsimp only
  rw [comma, Bool.true_and, not_nil_of_comma comma, Bool.false_or]

/-- After an element there is an end, something that does not belong there, or a comma. -/
theorem nil_or_astray_or_comma (after : List SyntaxTree) :
    after = [] ∨ Astray after ∨ Ahead.punct "," after = true := by
  by_cases astray : Astray after
  · exact .inr (.inl astray)
  · exact (not_astray_iff.mp astray).imp_right .inr

end Ends

def afterArgument (handle : SyntaxTree → σ → Reader σ) (fuel : Nat) (gathered : σ) : Reader σ := do
  if ← isEmpty then return gathered
  else
    let _ ← punct ","
    if ← isEmpty then return gathered else argumentList.loop handle fuel gathered

section Arguments

variable {handle : SyntaxTree → σ → Reader σ} {fuel : Nat} {gathered : σ}

theorem reads_argumentList_loop_succ (state : ReaderState) :
    reads (argumentList.loop handle (fuel + 1) gathered) scope state =
      (reads (argumentPath >>= fun path => handle path gathered) scope state).bind fun found =>
        reads (afterArgument handle fuel found.1) scope found.2 := by
  rw [argumentList.loop, reads_bind, reads_bind, Option.bind_assoc]
  congr 1
  funext found
  exact reads_bind ..

theorem reads_afterArgument_of_astray {state : ReaderState} (astray : Astray state.rest) :
    reads (afterArgument handle fuel gathered) scope state = none := by
  obtain ⟨rest, leftOver⟩ := state
  rw [afterArgument, reads_bind, reads_isEmpty, Option.bind_some, reads_ite,
    if_neg (fun empty => astray.1 (List.isEmpty_iff.mp empty)), reads_bind,
    reads_punct_of_not astray.2, Option.bind_none]

theorem reads_afterArgument_of_comma {tokens : List SyntaxTree} {leftOver : Option LeftOver}
    (comma : Ahead.punct "," tokens = true) :
    reads (afterArgument handle fuel gathered) scope ⟨tokens, leftOver⟩ =
      if (tokens.drop 1).isEmpty = true then some (gathered, ⟨[], leftOver⟩)
      else reads (argumentList.loop handle fuel gathered) scope ⟨tokens.drop 1, leftOver⟩ := by
  rw [afterArgument, reads_bind, reads_isEmpty, Option.bind_some, reads_ite]
  dsimp only
  rw [not_nil_of_comma comma, if_neg Bool.false_ne_true, reads_bind,
    reads_punct_of comma (rfl : _ = 1), Option.bind_some, reads_bind, reads_isEmpty,
    Option.bind_some, reads_ite]
  dsimp only
  split
  · rename_i ends
    rw [List.isEmpty_iff.mp ends]
    rfl
  · rfl

end Arguments

/-- Once arguments are lost they are not read to their end. -/
theorem exit_ne_of_lost {α : Type} {reader : Reader α} [onward : Onward reader]
    {state : ReaderState} (lost : Lost state)
    (stops : Astray state.rest → reads reader scope state = none) :
    (reads reader scope state).map (·.2) ≠ some ⟨[], none⟩ := by
  intro read
  obtain ⟨⟨value, _⟩, read, rfl⟩ := Option.map_eq_some_iff.mp read
  obtain astray | noted := lost
  · rw [stops astray] at read
    cases read
  · exact Bool.false_ne_true ((onward.past read).noted noted)

section Named

variable {handle : SyntaxTree → σ → Reader σ}
  [onward : ∀ path gathered, Onward (handle path gathered)]

instance onward_argumentPath_loop (fuel : Nat) (done : List SyntaxTree) :
    Onward (argumentPath.loop fuel done) := by
  induction fuel generalizing done with
  | zero => exact onward_pure _
  | succ fuel ih =>
      unfold argumentPath.loop
      infer_instance

instance onward_argumentPath : Onward argumentPath := by
  unfold argumentPath
  infer_instance

instance onward_argumentList_loop (fuel : Nat) (gathered : σ) :
    Onward (argumentList.loop handle fuel gathered) := by
  induction fuel generalizing gathered with
  | zero => exact onward_pure _
  | succ fuel ih =>
      unfold argumentList.loop
      infer_instance

instance onward_afterArgument (fuel : Nat) (gathered : σ) :
    Onward (afterArgument handle fuel gathered) := by
  unfold afterArgument
  infer_instance

/-- A reader of named arguments reads them to the end exactly if each of them ends where the next
may begin. -/
theorem reads_argumentList_loop (scope : Scope) (settled : Nat → List SyntaxTree → Prop)
    (fine : σ → Prop)
    (step : ∀ fuel tokens gathered, settled (fuel + 1) tokens → fine gathered →
      Comes (exit (argumentPath >>= fun path => handle path gathered) scope tokens)
          (element tokens) ∧
        ∀ after result, element tokens = some after →
          reads (argumentPath >>= fun path => handle path gathered) scope ⟨tokens, none⟩ =
            some (result, ⟨after, none⟩) → fine result)
    (later : ∀ fuel tokens after, settled (fuel + 1) tokens → element tokens = some after →
      Ahead.punct "," after = true → (after.drop 1).isEmpty = false → settled fuel (after.drop 1))
    (enough : ∀ tokens, ¬settled 0 tokens) (fuel : Nat) (tokens : List SyntaxTree) (gathered : σ)
    (ready : settled fuel tokens) (fineSoFar : fine gathered) :
    if listEnds element fuel tokens = true then
      ∃ result, fine result ∧
        reads (argumentList.loop handle fuel gathered) scope ⟨tokens, none⟩ =
          some (result, ⟨[], none⟩)
    else ∀ result, reads (argumentList.loop handle fuel gathered) scope ⟨tokens, none⟩ ≠
      some (result, ⟨[], none⟩) := by
  -- On the bound of the loop. What has been gathered stays fine, and what is left stays settled
  -- below the bound, since an argument and its comma take tokens.
  induction fuel generalizing tokens gathered with
  | zero => exact absurd ready (enough tokens)
  | succ fuel ih =>
      obtain ⟨comes, fineAfter⟩ := step fuel tokens gathered ready fineSoFar
      rw [reads_argumentList_loop_succ]
      cases ends : element tokens with
      | none =>
          rw [ends] at comes
          rw [listEnds_of_none ends, if_neg Bool.false_ne_true]
          intro result finished
          obtain ⟨found, read, finished⟩ := Option.bind_eq_some_iff.mp finished
          have lost := comes _ (exit_eq_some_iff.mpr ⟨found.1, read⟩)
          exact exit_ne_of_lost lost reads_afterArgument_of_astray (by rw [finished]; rfl)
      | some after =>
          rw [ends] at comes
          obtain ⟨result, read⟩ := exit_eq_some_iff.mp comes
          have fineNow := fineAfter after result ends read
          rw [read, Option.bind_some]
          obtain rfl | astray | comma := nil_or_astray_or_comma after
          · rw [listEnds_of_nil ends, if_pos rfl]
            exact ⟨result, fineNow, rfl⟩
          · rw [listEnds_of_astray ends astray, if_neg Bool.false_ne_true]
            dsimp only
            rw [reads_afterArgument_of_astray astray]
            exact fun _ => nofun
          · rw [listEnds_of_comma ends comma, reads_afterArgument_of_comma comma]
            cases last : (after.drop 1).isEmpty with
            | true =>
                rw [Bool.true_or, if_pos rfl, if_pos rfl]
                exact ⟨result, fineNow, rfl⟩
            | false =>
                rw [Bool.false_or, if_neg Bool.false_ne_true]
                exact ih _ _ (later fuel tokens _ ready ends comma last) fineNow

end Named

/-- A reader of a list with commas reads it to the end exactly if each element ends where the next
may begin. -/
theorem exit_separated_loop_iff (settled : Nat → List SyntaxTree → Prop) {value : Reader SyntaxTree}
    [Onward value]
    (step : ∀ fuel tokens, settled (fuel + 1) tokens →
      Comes (exit value scope tokens) (element tokens))
    (later : ∀ fuel tokens after, settled (fuel + 1) tokens → element tokens = some after →
      Ahead.punct "," after = true → (after.drop 1).isEmpty = false → settled fuel (after.drop 1))
    (enough : ∀ tokens, ¬settled 0 tokens) (fuel : Nat) (done tokens : List SyntaxTree)
    (ready : settled fuel tokens) (something : tokens.isEmpty = false) :
    exit (separated.loop isEmpty value (punct ",") fuel done) scope tokens = some ⟨[], none⟩ ↔
      listEnds element fuel tokens = true := by
  induction fuel generalizing done tokens with
  | zero => exact absurd ready (enough tokens)
  | succ fuel ih =>
      have comes := step fuel tokens ready
      rw [exit, separated.loop, reads_bind, reads_isEmpty, Option.bind_some, reads_ite]
      dsimp only
      rw [something, if_neg Bool.false_ne_true, reads_bind]
      cases ends : element tokens with
      | none =>
          rw [ends] at comes
          rw [listEnds_of_none ends]
          refine iff_of_false (fun finished => ?_) Bool.false_ne_true
          cases read : reads value scope ⟨tokens, none⟩ with
          | none =>
              rw [read] at finished
              cases finished
          | some found =>
              rw [read, Option.bind_some] at finished
              have lost := comes _ (exit_eq_some_iff.mpr ⟨found.1, read⟩)
              refine exit_ne_of_lost lost (fun astray => ?_) finished
              rw [reads_bind, reads_isEmpty, Option.bind_some, reads_ite,
                if_neg (fun empty => astray.1 (List.isEmpty_iff.mp empty)), reads_bind,
                reads_punct_of_not astray.2, Option.bind_none]
      | some after =>
          rw [ends] at comes
          obtain ⟨tree, read⟩ := exit_eq_some_iff.mp comes
          rw [read, Option.bind_some, reads_bind, reads_isEmpty, Option.bind_some, reads_ite]
          dsimp only
          obtain rfl | astray | comma := nil_or_astray_or_comma after
          · rw [listEnds_of_nil ends]
            exact iff_of_true rfl rfl
          · rw [listEnds_of_astray ends astray, reads_bind, reads_punct_of_not astray.2,
              if_neg (fun empty => astray.1 (List.isEmpty_iff.mp empty))]
            exact iff_of_false nofun Bool.false_ne_true
          · rw [listEnds_of_comma ends comma, not_nil_of_comma comma, if_neg Bool.false_ne_true,
              reads_bind, reads_punct_of comma (rfl : _ = 1), Option.bind_some]
            dsimp only
            cases last : (after.drop 1).isEmpty with
            | true =>
                rw [Bool.true_or, List.isEmpty_iff.mp last]
                cases fuel <;> exact iff_of_true rfl rfl
            | false =>
                rw [Bool.false_or]
                exact ih _ _ (later fuel tokens _ ready ends comma last) last

end Lists

/-! ## Lists of paths -/

section Groups

variable {α : Type} {scope : Scope} {tokens : List SyntaxTree} {check : ArgumentValue → Bool}

theorem exit_group (reader : Reader α) (inner rest : List SyntaxTree) (openLine closeLine : Nat) :
    exit (group .parenthesis reader) scope (.group .parenthesis inner openLine closeLine :: rest) =
      (exit reader ⟨closeLine, some .parenthesis⟩ inner).map fun state =>
        ⟨rest, noteLeftOver state.leftOver (some .parenthesis) state.rest⟩ := by
  rw [exit, reads_group, exit]
  cases reads reader ⟨closeLine, some .parenthesis⟩ ⟨inner, none⟩ <;> rfl

theorem noted_of_left {left : Option LeftOver} {inside : Option Delimiter}
    {rest : List SyntaxTree} (unfinished : (⟨rest, left⟩ : ReaderState) ≠ ⟨[], none⟩) :
    (noteLeftOver left inside rest).isSome = true := by
  cases rest with
  | cons tree rest => cases left <;> rfl
  | nil =>
      cases left with
      | some note => rfl
      | none => exact absurd rfl unfinished

/-- A reader comes out behind a group if it reads what is inside to the end. Otherwise the group has
left something over. -/
theorem comes_group {reader : Reader α} {inner rest : List SyntaxTree} {openLine closeLine : Nat}
    {good : Bool}
    (inside : exit reader ⟨closeLine, some .parenthesis⟩ inner = some ⟨[], none⟩ ↔ good = true) :
    Comes
      (exit (group .parenthesis reader) scope
        (.group .parenthesis inner openLine closeLine :: rest))
      (if good = true then some rest else none) := by
  rw [exit_group]
  split
  · rename_i isGood
    rw [inside.mpr isGood]
    rfl
  · rename_i isBad
    intro state found
    obtain ⟨⟨left, note⟩, read, rfl⟩ := Option.map_eq_some_iff.mp found
    refine .inr (noted_of_left fun same => isBad (inside.mp ?_))
    rw [read, same]

theorem group_of_splitAfterName {body after : List SyntaxTree}
    (split : splitAfterName tokens = some (.listed body, after)) :
    Ahead.group .parenthesis tokens = true := by
  unfold splitAfterName at split
  split at split
  · split at split <;> cases split
  · split at split
    · rfl
    · cases split

/-- A reader of a value in parentheses comes out after the argument if it reads what is between them
to the end. -/
theorem comes_listed {reader : Reader α}
    (noFlag : check .flag = false) (notAssigned : ∀ found, check (.assigned found) = false)
    (inside : ∀ body after, splitAfterName tokens = some (.listed body, after) → ∀ scope,
      exit reader scope body = some ⟨[], none⟩ ↔ check (.listed body) = true) :
    Comes (exit (group .parenthesis reader) scope tokens) (passed check tokens) := by
  cases listed : Ahead.group .parenthesis tokens with
  | true =>
      obtain ⟨body, openLine, closeLine, after, rfl⟩ := exists_of_group listed
      have comes : Comes (exit (group .parenthesis reader) scope
          (.group .parenthesis body openLine closeLine :: after)) _ :=
        comes_group (inside body after rfl ⟨closeLine, some .parenthesis⟩)
      rw [passed]
      show Comes _ (if check (.listed body) = true ∧ ¬Astray after then some after else none)
      by_cases passes : check (.listed body) = true
      · rw [if_pos passes] at comes
        by_cases astray : Astray after
        · rw [if_neg (fun both => both.2 astray), show exit _ _ _ = some _ from comes]
          exact comes_none_of_astray astray
        · rw [if_pos ⟨passes, astray⟩]
          exact comes
      · rw [if_neg passes] at comes
        rw [if_neg (fun both => passes both.1)]
        exact comes
  | false =>
      have refuses : exit (group .parenthesis reader) scope tokens = none := by
        rw [exit, reads_group_of_not reader listed]
        rfl
      have nothing : passed check tokens = none := by
        cases split : splitAfterName tokens with
        | none => rw [passed, split, Option.bind_none]
        | some found =>
            refine passed_of_not split fun passes => ?_
            obtain ⟨value, after⟩ := found
            cases value with
            | flag => exact absurd passes (Bool.eq_false_iff.mp noFlag)
            | assigned found => exact absurd passes (Bool.eq_false_iff.mp (notAssigned found))
            | listed body =>
                rw [group_of_splitAfterName split] at listed
                cases listed
      rw [refuses, nothing]
      exact comes_none

theorem rest_of_suffix {fuel : Nat} {after : List SyntaxTree} (ends : after <:+ tokens)
    (comma : Ahead.punct "," after = true) (enough : tokens.length < fuel + 1) :
    (after.drop 1).length < fuel := by
  have shorter := ends.length_le
  cases after with
  | nil => cases comma
  | cons tree rest =>
      rw [List.length_cons] at shorter
      rw [List.drop_one, List.tail_cons]
      omega

/-- What is left of a list, when the number bounds the elements. -/
def Within (body : List SyntaxTree) (fuel : Nat) (tokens : List SyntaxTree) : Prop :=
  tokens.length < fuel ∧ tokens <:+ body

theorem not_within_zero {body : List SyntaxTree} (tokens : List SyntaxTree) :
    ¬Within body 0 tokens :=
  fun within => Nat.not_lt_zero _ within.1

theorem Within.later {body : List SyntaxTree} {fuel : Nat} {after : List SyntaxTree}
    (within : Within body (fuel + 1) tokens) (ends : after <:+ tokens)
    (comma : Ahead.punct "," after = true) : Within body fuel (after.drop 1) :=
  ⟨rest_of_suffix ends comma within.1,
    (List.drop_suffix 1 after).trans (ends.trans within.2)⟩

theorem exit_commaList_nil (value : Reader SyntaxTree) :
    exit (commaList value) scope [] = some ⟨[], none⟩ :=
  rfl

section Agreement

variable {body : List SyntaxTree} {element : List SyntaxTree → Option (List SyntaxTree)}

/-- A list is read to its end exactly if each element ends where the next may begin. -/
theorem exit_commaList_iff (something : body.isEmpty = false)
    (ends : ∀ tokens after, element tokens = some after → after <:+ tokens)
    {value : Reader SyntaxTree} [Onward value]
    (step : ∀ tokens, tokens <:+ body → Comes (exit value scope tokens) (element tokens)) :
    exit (commaList value) scope body = some ⟨[], none⟩ ↔
      listEnds element (body.length + 1) body = true := by
  rw [← exit_separated_loop_iff (Within body) (fun fuel tokens within => step tokens within.2)
    (fun fuel tokens after within found comma _ => within.later (ends _ _ found) comma)
    not_within_zero (body.length + 1) [] body ⟨Nat.lt_succ_self _, List.suffix_refl _⟩ something,
    exit, commaList, separated, reads_bind, reads_ahead]
  rfl

/-- A list that a declaration attribute checks is read to its end by the check and by discovery, or
by neither of them, if their elements end alike. -/
theorem list_agrees (something : body.isEmpty = false)
    (ends : ∀ tokens after, element tokens = some after → after <:+ tokens)
    {form : Reader SyntaxTree} [Onward form] {handle : SyntaxTree → List α → Reader (List α)}
    [∀ path gathered, Onward (handle path gathered)]
    (checked : ∀ tokens, tokens <:+ body → Comes (exit form wholeText tokens) (element tokens))
    (read : ∀ tokens gathered, tokens <:+ body →
      Comes (exit (argumentPath >>= fun path => handle path gathered) scope tokens)
        (element tokens)) :
    exit (argumentList handle []) scope body = some ⟨[], none⟩ ↔
      (readAll (commaList form) body).isOk = true := by
  have gathered := reads_argumentList_loop scope (Within body) (fun _ : List α => True)
    (fun fuel tokens gathered within _ =>
      ⟨read tokens gathered within.2, fun _ _ _ _ => trivial⟩)
    (fun fuel tokens after within found comma _ => within.later (ends _ _ found) comma)
    not_within_zero (body.length + 1) body [] ⟨Nat.lt_succ_self _, List.suffix_refl _⟩ trivial
  have unfolded : exit (argumentList handle []) scope body =
      (reads (argumentList.loop handle (body.length + 1) []) scope ⟨body, none⟩).map (·.2) := by
    rw [exit, argumentList, reads_bind, reads_ahead]
    rfl
  rw [readAll_isOk_iff, exit_commaList_iff something ends checked, unfolded]
  split at gathered
  · rename_i reached
    obtain ⟨result, -, found⟩ := gathered
    rw [found]
    exact iff_of_true rfl reached
  · rename_i missed
    refine iff_of_false (fun finished => ?_) missed
    obtain ⟨⟨result, _⟩, read, rfl⟩ := Option.map_eq_some_iff.mp finished
    exact gathered result read

end Agreement

instance onward_pathForm (nested : Nested) [OnwardForms nested] : Onward (pathForm nested) :=
  inferInstanceAs (Onward (Reader.path nested false))

theorem comes_skim_types (nested : Nested) [OnwardForms nested]
    (settled : ∀ body after, splitAfterName tokens = some (.listed body, after) →
      body.isEmpty = false ∧ ∀ tree ∈ body, isPathToken tree = true) :
    Comes (exit (skim nested .types) scope tokens) (passed (accepts nested .types) tokens) := by
  have checked (body : List SyntaxTree) : accepts nested .types (.listed body) =
      (readAll (commaList (pathForm nested)) body).isOk := by
    show ((readAll (pathsForm nested) body).map _).isOk = (readAll (pathsForm nested) body).isOk
    cases readAll (pathsForm nested) body <;> rfl
  have unfolded : exit (skim nested .types) scope tokens =
      exit (group .parenthesis (argumentList (fun path paths => return paths ++ [path]) []))
        scope tokens :=
    (exit_then_pure pathList fun _ => ()).trans
      (exit_then_pure (group .parenthesis (argumentList _ []))
        fun found : List SyntaxTree × Nat × Nat => found.1)
  rw [unfolded]
  refine comes_listed rfl (fun _ => rfl) fun body after split inside => ?_
  obtain ⟨something, fits⟩ := settled body after split
  rw [checked]
  refine list_agrees something (fun _ _ => pathEnd_suffix) (fun tokens suffix => ?_)
    fun tokens gathered _ => ?_
  · have fits := fits_of_all fun tree found => fits tree (suffix.subset found)
    exact (pathComes_pathForm _ fits).comes
  · rw [exit_then_pure]
    exact pathComes_argumentPath.comes

end Groups

end Wiring.Expansion
