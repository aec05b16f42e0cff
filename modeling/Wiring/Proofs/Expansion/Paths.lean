import Wiring.Proofs.Expansion.Values

/-!
# Paths of words

A declaration attribute reads paths as types write them, and discovery as attributes do. Both come
out at the same place behind a path of words. See `pathComes_pathForm` and `exit_argumentPath`.
-/

set_option autoImplicit false

namespace Wiring.Expansion

open Wiring.Grammar
open Wiring.Grammar.Reader
open Wiring.Source

/-! ## Paths -/

/-- The tokens after the further segments of a path of words, if a word follows each separator. The
number bounds the segments. -/
def segmentsEnd : Nat → List SyntaxTree → Option (List SyntaxTree)
  | 0, tokens => some tokens
  | fuel + 1, tokens =>
      if Ahead.punct "::" tokens then
        if Ahead.anyWord (tokens.drop 2) then segmentsEnd fuel (tokens.drop 3) else none
      else some tokens

def pathEnd (tokens : List SyntaxTree) : Option (List SyntaxTree) :=
  let start := if Ahead.punct "::" tokens then tokens.drop 2 else tokens
  if Ahead.anyWord start then segmentsEnd ((start.drop 1).length + 1) (start.drop 1) else none

/-- Whether a token may stand in a path that both read: no angle bracket, and no keyword but those
that begin paths. -/
def isPathToken (tree : SyntaxTree) : Bool :=
  !isMark "<" tree &&
    match tree with
    | .token .ident text _ _ =>
        pathWords.contains text || text == "Self" || !Ahead.keywords.contains text
    | _ => true

section Paths

variable {scope : Scope} {tokens : List SyntaxTree}

theorem exists_of_anyWord (found : Ahead.anyWord tokens = true) :
    ∃ text line whole rest, tokens = .token .ident text line whole :: rest := by
  unfold Ahead.anyWord at found
  split at found
  · exact ⟨_, _, _, _, rfl⟩
  · cases found

theorem exit_argumentPath_loop (fuel : Nat) (done : List SyntaxTree) :
    exit (argumentPath.loop fuel done) scope tokens =
      (segmentsEnd fuel tokens).map fun after => ⟨after, none⟩ := by
  induction fuel generalizing done tokens with
  | zero => rfl
  | succ fuel ih =>
      rw [exit, argumentPath.loop, reads_bind, reads_peek, Option.bind_some, reads_ite, segmentsEnd]
      dsimp only
      split
      · rename_i separator
        rw [reads_bind, reads_punct_of separator (rfl : _ = 2), Option.bind_some, reads_bind]
        dsimp only
        cases word : Ahead.anyWord (tokens.drop 2) with
        | false =>
            rw [reads_anyWord_of_not word]
            rfl
        | true =>
            obtain ⟨text, line, whole, rest, same⟩ := exists_of_anyWord word
            have third : tokens.drop 3 = rest := by
              rw [show tokens.drop 3 = (tokens.drop 2).drop 1 by rw [List.drop_drop], same]
              rfl
            rw [same, reads_anyWord_word, Option.bind_some, third]
            exact ih _
      · rfl

theorem reads_separator? (scope : Scope) (tokens : List SyntaxTree) (leftOver : Option LeftOver) :
    ∃ root, (Ahead.punct "::" tokens = true → root.length = 1) ∧
      (∀ part ∈ root, part.children = []) ∧
        reads (punct? "::") scope ⟨tokens, leftOver⟩ =
          some (root, ⟨if Ahead.punct "::" tokens then tokens.drop 2 else tokens, leftOver⟩) := by
  rw [punct?, reads_bind, reads_peek, Option.bind_some, reads_ite]
  dsimp only
  split
  · rename_i separator
    rw [reads_bind, reads_punct_of separator (rfl : _ = 2)]
    refine ⟨_, fun _ => rfl, fun part found => ?_, rfl⟩
    rw [List.mem_singleton.mp found]
    rfl
  · rename_i missing
    exact ⟨[], fun separator => absurd separator missing, List.forall_mem_nil _, rfl⟩

/-- The path that names an argument: what it begins with, a word, and further segments. -/
theorem reads_argumentPath {root start : List SyntaxTree} {leftOver : Option LeftOver}
    (begins : reads (punct? "::") scope ⟨tokens, leftOver⟩ = some (root, ⟨start, leftOver⟩)) :
    reads argumentPath scope ⟨tokens, leftOver⟩ =
      if Ahead.anyWord start = true then
        (reads (argumentPath.loop ((start.drop 1).length + 1) []) scope
            ⟨start.drop 1, leftOver⟩).map
          fun further =>
            (.node .path (root ++ [.node .segment (start.take 1)] ++ further.1), further.2)
      else none := by
  rw [argumentPath, reads_bind, begins, Option.bind_some, reads_bind, reads_peek,
    Option.bind_some, reads_ite]
  dsimp only
  cases word : Ahead.anyWord start with
  | false =>
      rw [Bool.not_false, if_pos rfl, if_neg Bool.false_ne_true, reads_bind, reads_isEmpty,
        Option.bind_some, reads_ite, reads_refuse]
      dsimp only
      rw [reads_bind, reads_peek, Option.bind_some, reads_ite, reads_refuse, reads_refuse, ite_self,
        ite_self]
  | true =>
      obtain ⟨text, line, whole, rest, rfl⟩ := exists_of_anyWord word
      rw [Bool.not_true, if_neg Bool.false_ne_true, if_pos rfl, reads_bind, reads_anyWord_word,
        Option.bind_some]
      dsimp only
      rw [reads_bind, reads_ahead, Option.bind_some, reads_bind]
      show _ = Option.map _ (reads (argumentPath.loop (rest.length + 1) []) scope ⟨rest, leftOver⟩)
      cases reads (argumentPath.loop (rest.length + 1) []) scope ⟨rest, leftOver⟩ <;> rfl

theorem exit_argumentPath :
    exit argumentPath scope tokens = (pathEnd tokens).map fun after => ⟨after, none⟩ := by
  obtain ⟨root, -, -, begins⟩ := reads_separator? scope tokens none
  rw [exit, reads_argumentPath begins, pathEnd]
  generalize (if Ahead.punct "::" tokens then tokens.drop 2 else tokens) = start
  split
  · rw [Option.map_map]
    exact exit_argumentPath_loop _ _
  · rfl

theorem astray_of_colon (colon : Ahead.punct ":" tokens = true) : Astray tokens := by
  obtain ⟨kind, line, whole, rest, rfl, rfl | rfl⟩ := exists_of_mark rfl colon
  · exact ⟨List.cons_ne_nil _ _, rfl⟩
  · exact ⟨List.cons_ne_nil _ _, rfl⟩

theorem astray_of_separator (separator : Ahead.punct "::" tokens = true) : Astray tokens := by
  obtain ⟨line, whole, rest, rfl, -⟩ := exists_of_separator separator
  exact ⟨List.cons_ne_nil _ _, rfl⟩

/-! ## Tokens that a path begins -/

/-- Whether tokens that may stand in a path go up to an end or a comma. -/
def Fits (tokens : List SyntaxTree) : Prop :=
  ∃ front after, tokens = front ++ after ∧ (∀ tree ∈ front, isPathToken tree = true) ∧
    ¬Astray after

theorem fits_of_all (all : ∀ tree ∈ tokens, isPathToken tree = true) : Fits tokens :=
  ⟨tokens, [], (List.append_nil _).symm, all, fun astray => astray.1 rfl⟩

namespace Fits

theorem opens (fits : Fits tokens) : Ahead.punct "<" tokens = false := by
  obtain ⟨front, after, rfl, all, ends⟩ := fits
  cases front with
  | nil =>
      obtain rfl | ⟨line, whole, rest, rfl⟩ | ⟨line, whole, rest, rfl⟩ := end_cases ends
      · rfl
      · rfl
      · rfl
  | cons tree rest =>
      have fit := all tree List.mem_cons_self
      unfold isPathToken at fit
      rw [Bool.and_eq_true, Bool.not_eq_true'] at fit
      exact (punct_eq_isMark rfl tree _).trans fit.1

theorem word {text : String} {line : Nat} {whole : isWhole (TokenKind.ident == .joined) text = true}
    {rest : List SyntaxTree} (fits : Fits (.token .ident text line whole :: rest)) :
    isPathToken (.token .ident text line whole) = true ∧ Fits rest := by
  obtain ⟨front, after, same, all, ends⟩ := fits
  cases front with
  | nil =>
      rw [List.nil_append] at same
      rw [← same] at ends
      exact absurd ⟨List.cons_ne_nil _ _, rfl⟩ ends
  | cons tree front =>
      obtain ⟨rfl, rfl⟩ := List.cons.inj same
      exact ⟨all _ List.mem_cons_self,
        front, after, rfl, fun tree found => all tree (List.mem_cons_of_mem _ found), ends⟩

theorem afterWord (fits : Fits tokens) (word : Ahead.anyWord tokens = true) :
    Fits (tokens.drop 1) := by
  obtain ⟨text, line, whole, rest, rfl⟩ := exists_of_anyWord word
  exact fits.word.2

theorem separator (fits : Fits tokens) (separator : Ahead.punct "::" tokens = true) :
    Fits (tokens.drop 2) := by
  obtain ⟨front, after, rfl, all, ends⟩ := fits
  match front with
  | [] => exact absurd (astray_of_separator separator) ends
  | [first] =>
      obtain ⟨line, whole, rest, same, colon⟩ := exists_of_separator separator
      obtain ⟨-, rfl⟩ := List.cons.inj same
      exact absurd (astray_of_colon colon) ends
  | first :: second :: front =>
      exact ⟨front, after, rfl,
        fun tree found => all tree (List.mem_cons_of_mem _ (List.mem_cons_of_mem _ found)), ends⟩

end Fits

def afterWord (nested : Nested) (word : SyntaxTree) : Reader SyntaxTree := do
  if !false && (← peek (Ahead.punct "<")) && !(← peek (Ahead.punct "<=")) then
    return .node .segment [word, ← angleArguments nested []]
  else if (← peek (Ahead.punct "::")) && (← peek (Ahead.third (Ahead.punct "<"))) then
    let separator ← punct "::"
    return .node .segment [word, ← angleArguments nested [separator]]
  else return .node .segment [word]

/-- Without angle brackets ahead, also behind a separator, a segment is its word. -/
theorem reads_afterWord_of_not (nested : Nested) (word : SyntaxTree)
    (opens : Ahead.punct "<" tokens = false)
    (further : (Ahead.punct "::" tokens && Ahead.third (Ahead.punct "<") tokens) = false) :
    reads (afterWord nested word) scope ⟨tokens, none⟩ =
      some (.node .segment [word], ⟨tokens, none⟩) := by
  rw [afterWord, reads_bind, reads_peek, Option.bind_some, reads_bind, reads_peek,
    Option.bind_some, reads_ite]
  dsimp only
  rw [opens, Bool.and_false, Bool.false_and, if_neg Bool.false_ne_true, reads_bind,
    reads_peek, Option.bind_some, reads_bind, reads_peek, Option.bind_some, reads_ite]
  dsimp only
  rw [further, if_neg Bool.false_ne_true]
  rfl

theorem reads_afterWord (nested : Nested) (word : SyntaxTree) (fits : Fits tokens) :
    reads (afterWord nested word) scope ⟨tokens, none⟩ =
      some (.node .segment [word], ⟨tokens, none⟩) := by
  refine reads_afterWord_of_not nested word fits.opens ?_
  cases separator : Ahead.punct "::" tokens with
  | false => rfl
  | true => exact (fits.separator separator).opens

theorem segment_eq (scope : Scope) (nested : Nested) :
    reads (Reader.segment nested false) scope ⟨tokens, none⟩ =
      if (pathWords.any fun word => Ahead.word word tokens) = true then
        reads (anyWord >>= fun word => pure (.node .segment [word])) scope ⟨tokens, none⟩
      else if Ahead.word "Self" tokens = true then
        reads (anyWord >>= afterWord nested) scope ⟨tokens, none⟩
      else reads (name >>= afterWord nested) scope ⟨tokens, none⟩ := by
  rw [Reader.segment, reads_bind, reads_peek, Option.bind_some, reads_ite]
  dsimp only
  congr 1
  rw [reads_bind, reads_peek, Option.bind_some, reads_ite]
  rfl

/-- A segment of a path begins with its word. The words that only begin paths take no arguments. -/
theorem reads_segment_word (nested : Nested) {text : String} {line : Nat}
    {whole : isWhole (TokenKind.ident == .joined) text = true} (rest : List SyntaxTree)
    (fit : isPathToken (.token .ident text line whole) = true) :
    reads (Reader.segment nested false) scope ⟨.token .ident text line whole :: rest, none⟩ =
      if pathWords.contains text = true then
        some (.node .segment [.token .ident text line whole], ⟨rest, none⟩)
      else reads (afterWord nested (.token .ident text line whole)) scope ⟨rest, none⟩ := by
  have pathWord : (pathWords.any fun word =>
      Ahead.word word (.token .ident text line whole :: rest)) = pathWords.contains text :=
    List.contains_eq_any_beq.symm
  rw [segment_eq, pathWord]
  split
  · rfl
  · rename_i noPathWord
    split
    · rw [reads_bind, reads_anyWord_word, Option.bind_some]
    · rename_i noSelf
      have isName : Ahead.keywords.contains text = false := by
        have noSelf : (text == "Self") = false := Bool.eq_false_iff.mpr noSelf
        unfold isPathToken at fit
        dsimp only at fit
        rw [Bool.eq_false_iff.mpr noPathWord, noSelf, Bool.false_or, Bool.false_or,
          Bool.and_eq_true] at fit
        exact (Bool.not_eq_true' _).mp fit.2
      rw [reads_bind, reads_name_word, isName, if_neg Bool.false_ne_true, Option.bind_some]

theorem reads_segment_of_not (nested : Nested) (missing : Ahead.anyWord tokens = false) :
    reads (Reader.segment nested false) scope ⟨tokens, none⟩ = none := by
  have noWord (text : String) : Ahead.word text tokens = false := by
    unfold Ahead.word
    split
    · cases missing
    · rfl
  rw [segment_eq, if_neg (by simp [pathWords, noWord]),
    if_neg (by rw [noWord]; exact Bool.false_ne_true), reads_bind, reads_name_of_not missing]
  rfl

/-- Where only words and separators stand ahead a segment is the word ahead. -/
theorem reads_segment (scope : Scope) (nested : Nested) (fits : Fits tokens) :
    reads (Reader.segment nested false) scope ⟨tokens, none⟩ =
      if Ahead.anyWord tokens = true then
        some (.node .segment (tokens.take 1), ⟨tokens.drop 1, none⟩)
      else none := by
  cases word : Ahead.anyWord tokens with
  | false => exact reads_segment_of_not nested word
  | true =>
      obtain ⟨text, line, whole, rest, rfl⟩ := exists_of_anyWord word
      obtain ⟨fit, later⟩ := fits.word
      rw [reads_segment_word nested rest fit, reads_afterWord _ _ later, ite_self]
      rfl

theorem reads_segments_loop (scope : Scope) (nested : Nested) (fuel : Nat)
    (done tokens : List SyntaxTree) :
    reads (segments.loop nested false (fuel + 1) done) scope ⟨tokens, none⟩ =
      if (Ahead.punct "::" tokens && !Ahead.third (Ahead.group .parenthesis) tokens) = true then
        (reads (punct "::") scope ⟨tokens, none⟩).bind fun separator =>
          (reads (Reader.segment nested false) scope separator.2).bind fun found =>
            reads (segments.loop nested false fuel (found.1 :: separator.1 :: done)) scope
              found.2
      else some (done.reverse, ⟨tokens, none⟩) := by
  rw [segments.loop, reads_bind, reads_peek, Option.bind_some, reads_bind, reads_peek,
    Option.bind_some, reads_ite]
  dsimp only
  simp only [reads_bind, reads_pure]

theorem reads_segments_loop_end (scope : Scope) (nested : Nested)
    (noSeparator : Ahead.punct "::" tokens = false) (fuel : Nat) (done : List SyntaxTree) :
    reads (segments.loop nested false (fuel + 1) done) scope ⟨tokens, none⟩ =
      some (done.reverse, ⟨tokens, none⟩) := by
  rw [reads_segments_loop, noSeparator, Bool.false_and, if_neg Bool.false_ne_true]

theorem not_third_group_of_anyWord {delimiter : Delimiter}
    (word : Ahead.anyWord (tokens.drop 2) = true) :
    Ahead.third (Ahead.group delimiter) tokens = false := by
  rw [Bool.eq_false_iff]
  intro third
  obtain ⟨_, _, _, _, same⟩ := exists_of_group third
  rw [same] at word
  cases word

/-- A separator with a word behind it is followed by one more segment. -/
theorem reads_segments_loop_more (nested : Nested) {next : SyntaxTree}
    {after : List SyntaxTree} (separator : Ahead.punct "::" tokens = true)
    (word : Ahead.anyWord (tokens.drop 2) = true)
    (read : reads (Reader.segment nested false) scope ⟨tokens.drop 2, none⟩ =
      some (next, ⟨after, none⟩)) (fuel : Nat) (done : List SyntaxTree) :
    reads (segments.loop nested false (fuel + 1) done) scope ⟨tokens, none⟩ =
      reads (segments.loop nested false fuel
        (next :: .token .punct "::" (lineIn scope tokens) (Ahead.isWhole_of_punct separator) ::
          done)) scope ⟨after, none⟩ := by
  rw [reads_segments_loop, separator, not_third_group_of_anyWord word, Bool.not_false,
    Bool.true_and, if_pos rfl, reads_punct_of separator (rfl : _ = 2), Option.bind_some]
  dsimp only
  rw [read, Option.bind_some]

/-- Where a path of a type comes out: in front of the given tokens, or in front of a separator. -/
def PathComes (exit : Option ReaderState) : Option (List SyntaxTree) → Prop
  | some after => exit = some ⟨after, none⟩
  | none => ∀ state, exit = some state → Ahead.punct "::" state.rest = true

theorem PathComes.comes {exit : Option ReaderState} {outcome : Option (List SyntaxTree)}
    (comes : PathComes exit outcome) : Comes exit outcome := by
  cases outcome with
  | some after => exact comes
  | none =>
      intro state found
      exact .inl (astray_of_separator (comes state found))

theorem pathComes_segments_loop (nested : Nested) (fuel : Nat) (done : List SyntaxTree)
    (fits : Fits tokens) :
    PathComes (exit (segments.loop nested false fuel done) scope tokens)
      (segmentsEnd fuel tokens) := by
  induction fuel generalizing done tokens with
  | zero => rfl
  | succ fuel ih =>
      rw [segmentsEnd]
      cases separator : Ahead.punct "::" tokens with
      | false =>
          rw [exit, reads_segments_loop_end scope nested separator]
          rfl
      | true =>
          rw [if_pos rfl]
          have later := fits.separator separator
          have read := reads_segment scope nested later
          cases word : Ahead.anyWord (tokens.drop 2) with
          | true =>
              rw [word, if_pos rfl, List.drop_drop] at read
              rw [exit, reads_segments_loop_more nested separator word read, if_pos rfl]
              exact ih _ (List.drop_drop ▸ later.afterWord word)
          | false =>
              rw [word, if_neg Bool.false_ne_true] at read
              rw [exit, reads_segments_loop, separator, Bool.true_and, if_neg Bool.false_ne_true]
              cases third : Ahead.third (Ahead.group .parenthesis) tokens with
              | true =>
                  -- Before parentheses this loop stops in front of the separator, where no argument
                  -- can end; the other one misses a word.
                  rintro _ ⟨⟩
                  exact separator
              | false =>
                  rw [Bool.not_false, if_pos rfl, reads_punct_of separator (rfl : _ = 2),
                    Option.bind_some]
                  dsimp only
                  rw [read]
                  rintro _ ⟨⟩

/-- A path of a type ends where a path of words ends if none of its tokens means more. -/
theorem pathComes_pathForm (nested : Nested) (fits : Fits tokens) :
    PathComes (exit (pathForm nested) scope tokens) (pathEnd tokens) := by
  obtain ⟨root, -, -, start⟩ := reads_separator? scope tokens none
  rw [exit, pathForm, Reader.path, reads_bind, start, Option.bind_some, pathEnd]
  have fits : Fits (if Ahead.punct "::" tokens then tokens.drop 2 else tokens) := by
    split
    · exact fits.separator ‹_›
    · exact fits
  revert fits
  generalize (if Ahead.punct "::" tokens then tokens.drop 2 else tokens) = start
  intro fits
  rw [reads_bind, reads_segment scope nested fits]
  dsimp only
  cases word : Ahead.anyWord start with
  | false =>
      rw [if_neg Bool.false_ne_true, if_neg Bool.false_ne_true]
      rintro _ ⟨⟩
  | true =>
      have further : exit (segments nested false) scope (start.drop 1) =
          exit (segments.loop nested false ((start.drop 1).length + 1) [])
            scope (start.drop 1) := by
        rw [exit, segments, reads_bind, reads_ahead]
        rfl
      rw [if_pos rfl, if_pos rfl, Option.bind_some]
      dsimp only
      rw [map_reads_then_pure]
      show PathComes (exit (segments nested false) scope _) _
      rw [further]
      exact pathComes_segments_loop _ _ _ (fits.afterWord word)

theorem pathComes_argumentPath :
    PathComes (exit argumentPath scope tokens) (pathEnd tokens) := by
  rw [exit_argumentPath]
  cases pathEnd tokens with
  | none => rintro _ ⟨⟩
  | some after => rfl

theorem segmentsEnd_suffix {fuel : Nat} {after : List SyntaxTree}
    (ends : segmentsEnd fuel tokens = some after) : after <:+ tokens := by
  induction fuel generalizing tokens with
  | zero =>
      obtain rfl := Option.some.inj ends
      exact List.suffix_refl _
  | succ fuel ih =>
      rw [segmentsEnd] at ends
      split at ends
      · split at ends
        · exact (ih ends).trans (List.drop_suffix ..)
        · cases ends
      · obtain rfl := Option.some.inj ends
        exact List.suffix_refl _

theorem pathEnd_suffix {after : List SyntaxTree} (ends : pathEnd tokens = some after) :
    after <:+ tokens := by
  unfold pathEnd at ends
  have begins : (if Ahead.punct "::" tokens then tokens.drop 2 else tokens) <:+ tokens := by
    split
    · exact List.drop_suffix ..
    · exact List.suffix_refl _
  revert begins ends
  generalize (if Ahead.punct "::" tokens then tokens.drop 2 else tokens) = start
  intro ends begins
  dsimp only at ends
  split at ends
  · exact ((segmentsEnd_suffix ends).trans (List.drop_suffix ..)).trans begins
  · cases ends

end Paths

end Wiring.Expansion
