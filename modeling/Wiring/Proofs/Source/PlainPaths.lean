import Wiring.Proofs.Expansion.Paths
import Wiring.Proofs.Grammar.PathTypes
import Wiring.Proofs.Grammar.Words
import Wiring.Source.Qualified

/-!
# Plain paths

A plain path has segments without arguments. Its text, with or without spaces, is read as a plain
path of the same segments. See `exists_pathForm` and `exists_typeForm`.
-/

set_option autoImplicit false

namespace Wiring.Source

open Wiring.Grammar
open Wiring.Grammar.Reader
open Wiring.Expansion

/-! ## Segments -/

/-- Whether a text can be a segment: a word that is no keyword but those that stand in paths. -/
def IsSegment (name : String) : Prop :=
  isWord name = true ∧
    (name ∈ ["crate", "self", "super", "Self"] ∨ Ahead.keywords.contains name = false)

instance decidableIsSegment : DecidablePred IsSegment :=
  fun _ => inferInstanceAs (Decidable (_ ∧ _))

/-- The parts of a path of segments without arguments. -/
inductive PlainParts : List String → List SyntaxTree → Prop where
  | last {name : String} (segment : IsSegment name) (line : Nat)
      (whole : isWhole (TokenKind.ident == .joined) name = true) :
      PlainParts [name] [.node .segment [.token .ident name line whole]]
  | more {name : String} (segment : IsSegment name) (line : Nat)
      (whole : isWhole (TokenKind.ident == .joined) name = true) (place : Nat)
      (colons : isWhole (TokenKind.punct == .joined) "::" = true) {names : List String}
      {parts : List SyntaxTree} (rest : PlainParts names parts) :
      PlainParts (name :: names) (.node .segment [.token .ident name line whole] ::
        .token .punct "::" place colons :: parts)

/-- A path of segments without arguments, and whether it begins with colons. -/
inductive PlainPath : Bool → List String → SyntaxTree → Prop where
  | plain {names : List String} {parts : List SyntaxTree} (plain : PlainParts names parts) :
      PlainPath false names (.node .path parts)
  | rooted (place : Nat) (colons : isWhole (TokenKind.punct == .joined) "::" = true)
      {names : List String} {parts : List SyntaxTree} (plain : PlainParts names parts) :
      PlainPath true names (.node .path (.token .punct "::" place colons :: parts))

section Views

variable {rooted : Bool} {names : List String} {parts : List SyntaxTree} {path : SyntaxTree}

theorem PlainParts.ne_nil (plain : PlainParts names parts) : names ≠ [] ∧ parts ≠ [] := by
  cases plain with
  | last => simp
  | more => simp

theorem PlainParts.isSegment (plain : PlainParts names parts) : ∀ name ∈ names, IsSegment name := by
  induction plain with
  | last segment => simpa using segment
  | more segment _ _ _ _ _ ih => exact List.forall_mem_cons.mpr ⟨segment, ih⟩

theorem PlainPath.ne_nil (plain : PlainPath rooted names path) : names ≠ [] := by
  cases plain with
  | plain parts => exact parts.ne_nil.1
  | rooted _ _ parts => exact parts.ne_nil.1

theorem PlainPath.isSegment (plain : PlainPath rooted names path) :
    ∀ name ∈ names, IsSegment name := by
  cases plain with
  | plain parts => exact parts.isSegment
  | rooted _ _ parts => exact parts.isSegment

theorem PlainParts.segmentNames (plain : PlainParts names parts) :
    (parts.filter (SyntaxTree.hasKind .segment)).map SyntaxTree.segmentName = names := by
  induction plain with
  | last => rfl
  | more _ _ _ _ _ _ ih =>
      simp only [SyntaxTree.hasKind, beq_self_eq_true, List.filter_cons_of_pos, Bool.false_eq_true,
        not_false_eq_true, List.filter_cons_of_neg, List.map_cons, ih]
      rfl

theorem PlainPath.pathNames (plain : PlainPath rooted names path) : path.pathNames = names := by
  cases plain with
  | plain parts => exact parts.segmentNames
  | rooted _ _ parts => exact parts.segmentNames

theorem PlainPath.isAbsolutePath (plain : PlainPath rooted names path) :
    path.isAbsolutePath = rooted := by
  cases plain with
  | plain parts => cases parts <;> rfl
  | rooted => rfl

theorem PlainParts.qualifyTypes (plain : PlainParts names parts) (spaces : List String)
    (scope : Scope) : qualifyTypes spaces scope parts = parts := by
  induction plain with
  | last => rfl
  | more _ _ _ _ _ _ ih => simp only [Source.qualifyTypes, Source.qualifyType, ih]

theorem PlainPath.qualifyType (plain : PlainPath rooted names path) (spaces : List String)
    (scope : Scope) : qualifyType spaces scope path = path := by
  cases plain with
  | plain parts => simp only [Source.qualifyType, parts.qualifyTypes]
  | rooted _ _ parts => simp only [Source.qualifyType, Source.qualifyTypes, parts.qualifyTypes]

theorem PlainParts.getLast? (plain : PlainParts names parts) :
    ∃ name line whole,
      parts.getLast? = some (.node .segment [.token .ident name line whole]) := by
  induction plain with
  | last segment line whole => exact ⟨_, line, whole, rfl⟩
  | more _ _ _ _ _ rest ih =>
      obtain ⟨name, line, whole, last⟩ := ih
      refine ⟨name, line, whole, ?_⟩
      rw [List.getLast?_cons_of_ne_nil (List.cons_ne_nil _ _),
        List.getLast?_cons_of_ne_nil rest.ne_nil.2, last]

theorem PlainPath.withLastArguments (plain : PlainPath rooted names path) :
    path.withLastArguments [] = path := by
  have kept {parts : List SyntaxTree} {name : String} {line : Nat}
      {whole : isWhole (TokenKind.ident == .joined) name = true}
      (last : parts.getLast? = some (.node .segment [.token .ident name line whole])) :
      (SyntaxTree.node .path parts).withLastArguments [] = .node .path parts := by
    simp only [SyntaxTree.withLastArguments, last]
    rw [List.dropLast_append_getLast? _ last]
  cases plain with
  | plain parts =>
      obtain ⟨_, _, _, last⟩ := parts.getLast?
      exact kept last
  | rooted _ _ parts =>
      obtain ⟨_, _, _, last⟩ := parts.getLast?
      exact kept ((List.getLast?_cons_of_ne_nil parts.ne_nil.2).trans last)

/-! ## Their text -/

theorem joinPieces_cons (text : String) {rest : List Piece} (nonempty : rest ≠ []) :
    (joinPieces (⟨text, false⟩ :: rest)).toList =
      text.toList ++ ([' '] ++ (joinPieces rest).toList) := by
  obtain ⟨second, more, rfl⟩ := List.exists_cons_of_ne_nil nonempty
  have space : " ".toList = [' '] := by decide
  rw [joinPieces.eq_3 _ _ (List.cons_ne_nil _ _), String.toList_append, String.toList_append,
    if_neg Bool.false_ne_true, space, List.append_assoc]

theorem PlainParts.text (plain : PlainParts names parts) :
    SyntaxTree.piecesOf parts ≠ [] ∧
      (joinPieces (SyntaxTree.piecesOf parts)).toList = spell [' '] names := by
  induction plain with
  | last => exact ⟨List.cons_ne_nil _ _, rfl⟩
  | @more name _ line whole place colons names parts rest ih =>
      obtain ⟨nonempty, text⟩ := ih
      have pieces : SyntaxTree.piecesOf (.node .segment [.token .ident name line whole] ::
          .token .punct "::" place colons :: parts) =
            ⟨name, false⟩ :: ⟨"::", false⟩ :: SyntaxTree.piecesOf parts := rfl
      refine ⟨pieces ▸ List.cons_ne_nil _ _, ?_⟩
      rw [pieces, joinPieces_cons _ (List.cons_ne_nil _ _), joinPieces_cons _ nonempty, text,
        spell_cons _ _ rest.ne_nil.1]

theorem PlainPath.text (plain : PlainPath rooted names path) :
    path.text.toList = spellPath [' '] rooted names := by
  cases plain with
  | plain parts => exact parts.text.2
  | @rooted place colons names parts found =>
      have pieces : (SyntaxTree.node .path (.token .punct "::" place colons :: parts)).pieces =
          ⟨"::", false⟩ :: SyntaxTree.piecesOf parts := rfl
      rw [SyntaxTree.text, pieces, joinPieces_cons _ found.text.1, found.text.2]
      rfl

end Views

/-! ## Reading them -/

section Reading

variable {line : Nat} {names : List String} {tokens : List SyntaxTree}

theorem isPathToken_of_isSegment {name : String} (segment : IsSegment name) (line : Nat)
    (whole : isWhole (TokenKind.ident == .joined) name = true) :
    isPathToken (.token .ident name line whole) = true := by
  have known : (pathWords.contains name || name == "Self" ||
      !Ahead.keywords.contains name) = true := by
    rcases segment.2 with listed | other
    · have each : ∀ word ∈ ["crate", "self", "super", "Self"],
          (pathWords.contains word || word == "Self" || !Ahead.keywords.contains word) = true := by
        decide
      exact each name listed
    · rw [other, Bool.not_false, Bool.or_true]
  rw [isPathToken, known, Bool.and_true]
  rfl

theorem beginsType_of_isSegment {name : String} (segment : IsSegment name) (line : Nat)
    (whole : isWhole (TokenKind.ident == .joined) name = true) (rest : List SyntaxTree) :
    (Ahead.name (.token .ident name line whole :: rest) ||
      Ahead.pathWord (.token .ident name line whole :: rest)) = true := by
  rcases segment.2 with listed | other
  · simp only [List.mem_cons, List.not_mem_nil, or_false] at listed
    rcases listed with rfl | rfl | rfl | rfl <;> rfl
  · rw [Ahead.name, other]
    rfl

theorem exists_of_spelled (spelled : Spelled line names tokens)
    (allSegments : ∀ name ∈ names, IsSegment name) :
    ∃ name whole rest, tokens = .token .ident name line whole :: rest ∧ IsSegment name := by
  cases spelled with
  | last name whole => exact ⟨name, whole, [], rfl, allSegments name List.mem_cons_self⟩
  | more name whole colon colon' _ =>
      exact ⟨name, whole, _, rfl, allSegments name List.mem_cons_self⟩

/-- Words and colons are read as the parts of a plain path: the first segment, and the others by the
loop over further segments. -/
theorem reads_spelled (spelled : Spelled line names tokens)
    (allSegments : ∀ name ∈ names, IsSegment name) (scope : Grammar.Scope) (nested : Nested) :
    ∃ first further rest, PlainParts names (first :: further) ∧ rest.length < tokens.length ∧
      reads (Reader.segment nested false) scope ⟨tokens, none⟩ =
        some (first, ⟨rest, none⟩) ∧
      ∀ fuel done, rest.length < fuel →
        reads (Reader.segments.loop nested false fuel done) scope ⟨rest, none⟩ =
          some (done.reverse ++ further, ⟨[], none⟩) := by
  induction spelled with
  | last name whole =>
      have segment := allSegments name List.mem_cons_self
      refine ⟨_, [], [], .last segment line whole, Nat.lt_succ_self _, ?_, ?_⟩
      · rw [reads_segment_word nested [] (isPathToken_of_isSegment segment line whole),
          reads_afterWord_of_not nested _ rfl rfl, ite_self]
      · intro fuel done enough
        obtain ⟨less, rfl⟩ := Nat.exists_eq_add_one_of_ne_zero (Nat.ne_zero_of_lt enough)
        rw [List.append_nil]
        rfl
  | @more name whole colon colon' names tokens spelled ih =>
      rw [List.forall_mem_cons] at allSegments
      obtain ⟨segment, others⟩ := allSegments
      obtain ⟨next, further, after, parts, shorter, read, loop⟩ := ih others
      generalize behind : SyntaxTree.token .joined ":" line colon ::
        .token .punct ":" line colon' :: tokens = rest
      have separator : Ahead.punct "::" rest = true := by
        rw [← behind]
        rfl
      have dropped : rest.drop 2 = tokens := by
        rw [← behind]
        rfl
      have word : Ahead.anyWord (rest.drop 2) = true := by
        obtain ⟨_, _, _, rfl, -⟩ := exists_of_spelled spelled others
        rw [dropped]
        rfl
      refine ⟨_, _, rest, .more segment line whole (lineIn scope rest)
        (Ahead.isWhole_of_punct separator) parts, Nat.lt_succ_self _, ?_, ?_⟩
      · obtain ⟨_, _, _, rfl, -⟩ := exists_of_spelled spelled others
        subst behind
        rw [reads_segment_word nested _ (isPathToken_of_isSegment segment line whole),
          reads_afterWord_of_not nested _ rfl rfl, ite_self]
      · intro fuel done enough
        obtain ⟨less, rfl⟩ := Nat.exists_eq_add_one_of_ne_zero (Nat.ne_zero_of_lt enough)
        have left : after.length < less := by
          rw [← behind, List.length_cons, List.length_cons] at enough
          omega
        rw [reads_segments_loop_more nested separator word (dropped.symm ▸ read),
          loop less _ left]
        simp

/-! ## Whole texts -/

variable {rooted : Bool}

/-- Behind what a path begins with, if anything, its words are read as its parts. -/
theorem reads_afterRoot (words : Spelled line names tokens)
    (allSegments : ∀ name ∈ names, IsSegment name) (scope : Grammar.Scope) (nested : Nested) :
    ∃ parts, PlainParts names parts ∧ ∀ start root,
      reads (punct? "::") scope ⟨start, none⟩ = some (root, ⟨tokens, none⟩) →
        reads (Reader.path nested false) scope ⟨start, none⟩ =
          some (.node .path (root ++ parts), ⟨[], none⟩) := by
  obtain ⟨first, further, rest, parts, -, read, loop⟩ :=
    reads_spelled words allSegments scope nested
  refine ⟨_, parts, fun start root begins => ?_⟩
  rw [Reader.path, reads_bind, begins, Option.bind_some, reads_bind]
  dsimp only
  rw [read, Option.bind_some, reads_bind, Reader.segments, reads_bind, reads_ahead,
    Option.bind_some]
  dsimp only
  rw [loop _ _ (Nat.lt_succ_self _), Option.bind_some, List.append_assoc]
  rfl

theorem reads_spelledPath (spelled : SpelledPath line rooted names tokens)
    (allSegments : ∀ name ∈ names, IsSegment name) (scope : Grammar.Scope) (nested : Nested) :
    ∃ path, PlainPath rooted names path ∧
      reads (Reader.path nested false) scope ⟨tokens, none⟩ = some (path, ⟨[], none⟩) := by
  cases spelled with
  | plain words =>
      obtain ⟨parts, plain, read⟩ := reads_afterRoot words allSegments scope nested
      have noRoot : Ahead.punct "::" tokens = false := by cases words <;> rfl
      exact ⟨_, .plain plain, read _ _ (reads_punct?_of_not noRoot)⟩
  | @rooted colon colon' names words spelled =>
      obtain ⟨parts, plain, read⟩ := reads_afterRoot spelled allSegments scope nested
      have begins : Ahead.punct "::" (.token .joined ":" line colon ::
          .token .punct ":" line colon' :: words) = true := rfl
      refine ⟨_, .rooted line (Ahead.isWhole_of_punct begins) plain,
        read _ [.token .punct "::" line (Ahead.isWhole_of_punct begins)] ?_⟩
      rw [punct?, reads_bind, reads_peek, Option.bind_some, reads_ite]
      dsimp only
      rw [if_pos begins, reads_bind, reads_punct_of begins (rfl : _ = 2)]
      rfl

theorem exists_pathForm {gap : List Char} (spaces : ∀ c ∈ gap, c = ' ') (nonempty : names ≠ [])
    (allSegments : ∀ name ∈ names, IsSegment name) {text : String}
    (spells : text.toList = spellPath gap rooted names) :
    ∃ path, PlainPath rooted names path ∧ parseText pathForm text = .ok path := by
  obtain ⟨tokens, spelled, lexed⟩ :=
    exists_lex_spelled spaces nonempty (fun name member => (allSegments name member).1) spells
  obtain ⟨path, plain, read⟩ := reads_spelledPath spelled allSegments wholeText (nestedFor tokens)
  refine ⟨path, plain, ?_⟩
  rw [parseText, lexed]
  exact run_eq_ok_iff.mpr read

theorem beginsType_of_spelledPath (spelled : SpelledPath line rooted names tokens)
    (allSegments : ∀ name ∈ names, IsSegment name) : beginsType tokens = true := by
  cases spelled with
  | plain words =>
      obtain ⟨name, whole, rest, rfl, segment⟩ := exists_of_spelled words allSegments
      rw [beginsType, beginsType_of_isSegment segment line whole rest]
      rfl
  | rooted colon colon' words => rw [beginsType, Bool.or_eq_true]; exact .inr rfl

theorem exists_typeForm {gap : List Char} (spaces : ∀ c ∈ gap, c = ' ') (nonempty : names ≠ [])
    (allSegments : ∀ name ∈ names, IsSegment name) {text : String}
    (spells : text.toList = spellPath gap rooted names) :
    ∃ path, PlainPath rooted names path ∧
      parseText typeForm text = .ok (.node .pathType [path]) := by
  obtain ⟨tokens, spelled, lexed⟩ :=
    exists_lex_spelled spaces nonempty (fun name member => (allSegments name member).1) spells
  have begins := beginsType_of_spelledPath spelled allSegments
  let depth := depthFor tokens - 2
  have deep : nestedFor tokens = nonterminal (depth + 2) := by
    rw [nestedFor, Nat.sub_add_cancel (by unfold depthFor; omega)]
  obtain ⟨path, plain, read⟩ := reads_spelledPath spelled allSegments wholeText
    (nonterminal (depth + 1))
  refine ⟨path, plain, ?_⟩
  rw [parseText, lexed]
  show Reader.run (typeForm (nestedFor tokens)) wholeText tokens = _
  rw [deep]
  exact run_eq_ok_iff.mpr (reads_typeForm_of_path begins read)

end Reading

end Wiring.Source
