import Mathlib.Data.List.Induction
import Wiring.Grammar.Code
import Wiring.Grammar.Text

/-!
# The text of trees

The text of a tree is whole, as its tokens are: see `reads_textOf`.  Text is put together from
what stands in front of something else, with the space behind it, and what stands at the end.
-/

set_option autoImplicit false

namespace Wiring.Grammar

/-! ## Whole pieces -/

def Piece.Whole (piece : Piece) : Prop :=
  isWhole piece.joined piece.text = true

def breaks : List Char :=
  [' ', '(', '[', '\x7b', ')', ']', '\x7d']

theorem Place.step_eq_apart {place : Place} (outside : place.isOutside = true) {c : Char}
    (member : c ∈ breaks) : place.step c = .apart := by
  simp only [breaks, List.mem_cons, List.not_mem_nil, or_false] at member
  rcases member with rfl | rfl | rfl | rfl | rfl | rfl | rfl <;>
    cases place <;> first | rfl | cases outside

theorem Place.mem_breaks_of_opens {c : Char} (opening : opens c = true) : c ∈ breaks := by
  simp only [opens, Bool.or_eq_true, beq_iff_eq] at opening
  rcases opening with (rfl | rfl) | rfl <;> decide

theorem Place.mem_breaks_of_closes {c : Char} (closing : closes c = true) : c ∈ breaks := by
  simp only [closes, Bool.or_eq_true, beq_iff_eq] at closing
  rcases closing with (rfl | rfl) | rfl <;> decide

def ReadsOver (cs : List Char) : Prop :=
  ∃ place, Place.apart.after? 0 cs = some (place, 0) ∧ place.isOutside = true

theorem ReadsOver.space {cs : List Char} (reads : ReadsOver cs) :
    Place.apart.after? 0 (cs ++ [' ']) = some (.apart, 0) := by
  obtain ⟨place, reads, outside⟩ := reads
  rw [Place.after?_append, reads]
  have apart : place.step ' ' = .apart := Place.step_eq_apart outside (by decide)
  simp [Place.after?, apart, Place.opens, Place.closes]

/-! ## Text in front of something else -/

def Piece.gap (piece : Piece) : List Char :=
  if piece.joined then [] else [' ']

def spaced (pieces : List Piece) : List Char :=
  pieces.flatMap fun piece => piece.text.toList ++ piece.gap

theorem joinPieces_append (front : List Piece) {back : List Piece} (some : back ≠ []) :
    (joinPieces (front ++ back)).toList = spaced front ++ (joinPieces back).toList := by
  induction front with
  | nil => rfl
  | cons piece front ih =>
      obtain ⟨next, rest, split⟩ : ∃ next rest, front ++ back = next :: rest :=
        List.exists_cons_of_ne_nil (List.append_ne_nil_of_right_ne_nil front some)
      rw [split] at ih
      have joins : (joinPieces (piece :: next :: rest)).toList =
          piece.text.toList ++ piece.gap ++ (joinPieces (next :: rest)).toList := by
        unfold Piece.gap
        cases joined : piece.joined <;> simp [joinPieces, joined]
      rw [List.cons_append, split, joins, ih]
      simp only [spaced, List.flatMap_cons, List.append_assoc]

theorem Piece.Whole.gap {piece : Piece} (whole : piece.Whole) :
    Place.apart.after? 0 (piece.text.toList ++ piece.gap) = some (.apart, 0) := by
  obtain ⟨place, reads, outside, joined⟩ := isWhole_iff.mp whole
  unfold Piece.gap
  split
  · rename_i isJoined
    rw [List.append_nil, reads, joined isJoined]
  · exact ReadsOver.space ⟨place, reads, outside⟩

theorem after?_spaced {pieces : List Piece} (whole : ∀ piece ∈ pieces, piece.Whole) :
    Place.apart.after? 0 (spaced pieces) = some (.apart, 0) := by
  induction pieces with
  | nil => rfl
  | cons piece pieces ih =>
      rw [List.forall_mem_cons] at whole
      have first := whole.1.gap
      rw [spaced, List.flatMap_cons, Place.after?_append, first]
      exact ih whole.2

theorem readsOver_joinPieces {pieces : List Piece} (whole : ∀ piece ∈ pieces, piece.Whole) :
    ReadsOver (joinPieces pieces).toList := by
  induction pieces using List.reverseRecOn with
  | nil => exact ⟨.apart, rfl, rfl⟩
  | append_singleton front last ih =>
      rw [joinPieces_append front (List.cons_ne_nil last [])]
      rw [List.forall_mem_append, List.forall_mem_singleton] at whole
      obtain ⟨place, reads, outside, -⟩ := isWhole_iff.mp whole.2
      refine ⟨place, ?_, outside⟩
      rw [Place.after?_append, after?_spaced whole.1]
      exact reads

/-! ## Groups are whole -/

section Groups

variable {opening closing : Char} (opens : Place.opens opening = true)
  (closes : Place.closes closing = true)

include opens closes

theorem after?_group {body : List Char} (reads : ReadsOver body) :
    Place.apart.after? 0 (opening :: (body ++ [closing])) = some (.apart, 0) := by
  obtain ⟨place, reads, outside⟩ := reads
  have opened : Place.apart.step opening = .apart :=
    Place.step_eq_apart rfl (Place.mem_breaks_of_opens opens)
  have closed : place.step closing = .apart :=
    Place.step_eq_apart outside (Place.mem_breaks_of_closes closes)
  have inside := Place.after?_add 1 reads
  rw [Nat.zero_add] at inside
  have first : Place.apart.after? 0 (opening :: (body ++ [closing])) =
      Place.apart.after? 1 (body ++ [closing]) := by
    simp [Place.after?, Place.isOutside, opens, opened]
  rw [first, Place.after?_append, inside]
  simp [Place.after?, outside, closes, closed, Place.opens_eq_false_of_closes closes]

end Groups

theorem isWhole_of_apart {text : String}
    (reads : Place.apart.after? 0 text.toList = some (.apart, 0)) (joined : Bool) :
    isWhole joined text = true :=
  isWhole_iff.mpr ⟨.apart, reads, rfl, fun _ => rfl⟩

theorem ReadsOver.afterSpace {cs : List Char} (reads : ReadsOver cs) : ReadsOver (' ' :: cs) :=
  reads

theorem ReadsOver.inSpaces {cs : List Char} (reads : ReadsOver cs) :
    ReadsOver (' ' :: (cs ++ [' '])) :=
  ⟨.apart, reads.space, rfl⟩

theorem isWhole_enclose (delimiter : Delimiter) {body : String} (reads : ReadsOver body.toList)
    (joined : Bool) : isWhole joined (enclose delimiter body) = true := by
  apply isWhole_of_apart
  cases delimiter with
  | parenthesis => simpa [enclose] using after?_group (by decide) (by decide) reads
  | bracket => simpa [enclose] using after?_group (by decide) (by decide) reads
  | brace =>
      simp only [enclose]
      split
      · decide
      · simpa [enclose] using after?_group (by decide) (by decide) reads.inSpaces

/-! ## Trees are whole -/

theorem mem_pairs {parts : List GenericPart} :
    ∀ element ∈ lifetimesFirst.pairs parts, ∀ piece ∈ lifetimesFirst.written element,
      ∃ part ∈ parts, piece ∈ part.pieces := by
  fun_induction lifetimesFirst.pairs parts with
  | case1 =>
      intro element member
      cases member
  | case2 value comma rest isComma ih =>
      rw [List.forall_mem_cons]
      refine ⟨fun piece member => ?_, fun element later piece member => ?_⟩
      · rcases List.mem_append.mp member with first | second
        · exact ⟨value, by simp, first⟩
        · exact ⟨comma, by simp, second⟩
      · obtain ⟨part, among, inside⟩ := ih element later piece member
        exact ⟨part, by simp [among], inside⟩
  | case3 value comma rest other ih =>
      rw [List.forall_mem_cons]
      refine ⟨fun piece member => ?_, fun element later piece member => ?_⟩
      · exact ⟨value, by simp, by simpa [lifetimesFirst.written] using member⟩
      · obtain ⟨part, among, inside⟩ := ih element later piece member
        exact ⟨part, List.mem_cons_of_mem _ among, inside⟩
  | case4 value =>
      rw [List.forall_mem_singleton]
      intro piece member
      exact ⟨value, by simp, by simpa [lifetimesFirst.written] using member⟩

theorem mem_lifetimesFirst {parts : List GenericPart} {piece : Piece}
    (member : piece ∈ lifetimesFirst parts) :
    piece = ⟨",", false⟩ ∨ ∃ part ∈ parts, piece ∈ part.pieces := by
  have inParts : ∀ element ∈ lifetimesFirst.pairs parts,
      piece ∈ lifetimesFirst.written element → ∃ part ∈ parts, piece ∈ part.pieces :=
    fun element among => mem_pairs element among piece
  simp only [lifetimesFirst, List.mem_append, List.mem_flatMap, List.mem_filter] at member
  rcases member with (⟨element, among, inside⟩ | comma) | ⟨element, among, inside⟩
  · exact .inr (inParts element among.1 inside)
  · split at comma
    · exact .inl (List.mem_singleton.mp comma)
    · cases comma
  · exact .inr (inParts element among.1 inside)

theorem mem_genericPieces {parts : List GenericPart} {piece : Piece}
    (member : piece ∈ genericPieces parts) :
    piece = ⟨",", false⟩ ∨ ∃ part ∈ parts, piece ∈ part.pieces := by
  simp only [genericPieces] at member
  split at member
  · cases member
  · rename_i angle rest split
    have subset : ∀ part ∈ angle :: rest, part ∈ parts := by
      intro part among
      rw [← split] at among
      exact List.mem_of_mem_drop among
    simp only [List.mem_append, List.mem_flatMap] at member
    rcases member with ((⟨part, among, inside⟩ | inside) | inside) | inside
    · exact .inr ⟨part, List.takeWhile_sublist _ |>.mem among, inside⟩
    · exact .inr ⟨angle, subset angle (List.mem_cons_self ..), inside⟩
    · rcases mem_lifetimesFirst inside with comma | ⟨part, among, inside⟩
      · exact .inl comma
      · exact .inr ⟨part, subset part (List.mem_cons_of_mem _ (List.dropLast_subset _ among)),
          inside⟩
    · cases last : rest.getLast? with
      | none => simp [last] at inside
      | some part =>
          rw [last] at inside
          have among := List.mem_cons_of_mem angle (List.mem_of_getLast? last)
          exact .inr ⟨part, subset part among, inside⟩

theorem whole_genericPieces {parts : List GenericPart}
    (whole : ∀ part ∈ parts, ∀ piece ∈ part.pieces, piece.Whole) :
    ∀ piece ∈ genericPieces parts, piece.Whole := by
  intro piece member
  rcases mem_genericPieces member with rfl | ⟨part, among, inside⟩
  · exact isWhole_of_apart rfl _
  · exact whole part among piece inside

theorem pieces_token (kind : TokenKind) (text : String) (line : Nat)
    (whole : isWhole (kind == .joined) text = true) :
    (SyntaxTree.token kind text line whole).pieces = [⟨text, kind == .joined⟩] := by
  cases kind <;> rfl

mutual

theorem whole_pieces : ∀ (tree : SyntaxTree), ∀ piece ∈ tree.pieces, piece.Whole
  | .token kind text line whole => by
      intro piece member
      rw [pieces_token, List.mem_singleton] at member
      subst member
      exact whole
  | .group delimiter body _ _ => by
      intro piece member
      rw [SyntaxTree.pieces, List.mem_singleton] at member
      subst member
      exact isWhole_enclose delimiter (readsOver_joinPieces (whole_piecesOf body)) _
  | .node kind children => by
      have plain := whole_piecesOf children
      have generic := whole_genericPieces (whole_partsOf children)
      cases kind <;> first | exact plain | exact generic

theorem whole_piecesOf : ∀ (trees : List SyntaxTree),
    ∀ piece ∈ SyntaxTree.piecesOf trees, piece.Whole
  | [] => by
      intro piece member
      cases member
  | tree :: rest => by
      intro piece member
      rcases List.mem_append.mp member with first | later
      · exact whole_pieces tree piece first
      · exact whole_piecesOf rest piece later

theorem whole_partsOf : ∀ (trees : List SyntaxTree),
    ∀ part ∈ SyntaxTree.partsOf trees, ∀ piece ∈ part.pieces, piece.Whole
  | [] => by
      intro part member
      cases member
  | tree :: rest => by
      intro part member
      rcases List.mem_cons.mp member with rfl | later
      · exact whole_pieces tree
      · exact whole_partsOf rest part later

end

/-- A reader that knows only quotes and brackets gets over the text of trees. -/
theorem readsOver_textOf (trees : List SyntaxTree) :
    ReadsOver (SyntaxTree.textOf trees).toList :=
  readsOver_joinPieces (whole_piecesOf trees)

/-! ## Text put together -/

def leading (trees : List SyntaxTree) : List Char :=
  spaced (SyntaxTree.piecesOf trees)

def trailing (trees : List SyntaxTree) : List Char :=
  (SyntaxTree.textOf trees).toList

/-- Trees that a space separates from what follows. -/
structure Apart (trees : List SyntaxTree) : Prop where
  some : SyntaxTree.piecesOf trees ≠ []
  leading : leading trees = trailing trees ++ [' ']

theorem piecesOf_append (front back : List SyntaxTree) :
    SyntaxTree.piecesOf (front ++ back) =
      SyntaxTree.piecesOf front ++ SyntaxTree.piecesOf back := by
  induction front with
  | nil => rfl
  | cons tree front ih =>
      rw [List.cons_append, SyntaxTree.piecesOf, SyntaxTree.piecesOf, ih, List.append_assoc]

theorem leading_append (front back : List SyntaxTree) :
    leading (front ++ back) = leading front ++ leading back := by
  rw [leading, piecesOf_append, spaced, List.flatMap_append]
  rfl

theorem trailing_append (front : List SyntaxTree) {back : List SyntaxTree} (apart : Apart back) :
    trailing (front ++ back) = leading front ++ trailing back := by
  rw [trailing, SyntaxTree.textOf, piecesOf_append, joinPieces_append _ apart.some]
  rfl

theorem exists_trailing_append {front : List SyntaxTree} (apart : Apart front)
    (back : List SyntaxTree) : ∃ rest, trailing (front ++ back) = trailing front ++ rest := by
  by_cases none : SyntaxTree.piecesOf back = []
  · refine ⟨[], ?_⟩
    rw [trailing, SyntaxTree.textOf, piecesOf_append, none, List.append_nil, List.append_nil]
    rfl
  · refine ⟨[' '] ++ trailing back, ?_⟩
    rw [← List.append_assoc, ← apart.leading, trailing, SyntaxTree.textOf, piecesOf_append,
      joinPieces_append _ none]
    rfl

theorem Apart.append (front : List SyntaxTree) {back : List SyntaxTree} (apart : Apart back) :
    Apart (front ++ back) := by
  constructor
  · rw [piecesOf_append]
    exact List.append_ne_nil_of_right_ne_nil _ apart.some
  · rw [leading_append, trailing_append front apart, apart.leading, List.append_assoc]

theorem apart_of_last {trees : List SyntaxTree} {front : List Piece} {last : Piece}
    (pieces : SyntaxTree.piecesOf trees = front ++ [last]) (separate : last.joined = false) :
    Apart trees := by
  refine ⟨by simp [pieces], ?_⟩
  rw [leading, trailing, SyntaxTree.textOf, pieces, joinPieces_append _ (List.cons_ne_nil last [])]
  simp [spaced, Piece.gap, joinPieces, separate]

theorem apart_group (delimiter : Delimiter) (body : List SyntaxTree) (line line' : Nat) :
    Apart [.group delimiter body line line'] :=
  apart_of_last (List.nil_append _).symm rfl

section Groups

variable (body : List SyntaxTree)

theorem apart_inParentheses : Apart [inParentheses body] :=
  apart_group ..

theorem apart_inBrackets : Apart [inBrackets body] :=
  apart_group ..

theorem apart_inBraces : Apart [inBraces body] :=
  apart_group ..

theorem trailing_group (delimiter : Delimiter) (line line' : Nat) :
    trailing [.group delimiter body line line'] =
      (enclose delimiter (SyntaxTree.textOf body)).toList := by
  rfl

theorem trailing_inParentheses :
    trailing [inParentheses body] = "(".toList ++ (trailing body ++ ")".toList) := by
  rw [inParentheses, trailing_group, enclose, String.toList_append, String.toList_append,
    List.append_assoc]
  rfl

theorem trailing_inBrackets :
    trailing [inBrackets body] = "[".toList ++ (trailing body ++ "]".toList) := by
  rw [inBrackets, trailing_group, enclose, String.toList_append, String.toList_append,
    List.append_assoc]
  rfl

theorem trailing_inBraces (some : trailing body ≠ []) :
    trailing [inBraces body] = "\x7b ".toList ++ (trailing body ++ " \x7d".toList) := by
  have nonempty : (SyntaxTree.textOf body).isEmpty = false := by
    rw [← Bool.not_eq_true, String.isEmpty_iff]
    intro empty
    exact some (congrArg String.toList empty)
  rw [inBraces, trailing_group, enclose, nonempty]
  simp only [Bool.false_eq_true, if_false, String.toList_append, List.append_assoc]
  rfl

end Groups

theorem trailing_literalCode (text : String) :
    trailing [literalCode text] = (Text.stringLiteral text).toList :=
  rfl

/-! ## Text of code -/

theorem flatMap_codeWords (cs : List Char) :
    (codeWords cs).flatMap (fun word => word ++ [' ']) = cs ++ [' '] := by
  induction cs with
  | nil => rfl
  | cons c cs ih =>
      cases words : codeWords cs with
      | nil =>
          rw [words] at ih
          exact absurd ih.symm (List.append_ne_nil_of_right_ne_nil cs (List.cons_ne_nil ' ' []))
      | cons word later =>
          rw [words] at ih
          by_cases space : c = ' '
          · subst space
            simp [codeWords, words, ← ih]
          · simp [codeWords, words, ← ih]

theorem codeWords_ne_nil (cs : List Char) : codeWords cs ≠ [] := by
  intro none
  have text := flatMap_codeWords cs
  rw [none] at text
  exact absurd text.symm (List.append_ne_nil_of_right_ne_nil cs (List.cons_ne_nil ' ' []))

theorem pieces_ofText {kind : TokenKind} (separate : (kind == .joined) = false) {text : String}
    (whole : isWhole false text = true) :
    (SyntaxTree.ofText kind text).pieces = [⟨text, false⟩] := by
  rw [← separate] at whole
  rw [SyntaxTree.ofText, dif_pos whole, pieces_token, separate]

theorem pieces_codeToken {word : List Char} (whole : isWhole false (String.ofList word) = true) :
    (codeToken word).pieces = [⟨String.ofList word, false⟩] := by
  unfold codeToken
  split
  · exact pieces_ofText rfl whole
  · split
    · exact pieces_ofText rfl whole
    · exact pieces_ofText rfl whole
  · exact pieces_ofText rfl whole

/-- A text whose words are whole. -/
def isWholeCode (text : String) : Bool :=
  (codeWords text.toList).all fun word => isWhole false (String.ofList word)

theorem isWholeCode_of_inert {text : String} (inert : text.toList.all isInert = true) :
    isWholeCode text = true := by
  have spaced : (text.toList ++ [' ']).all isInert = true := by
    rw [List.all_append, inert]
    decide
  rw [← flatMap_codeWords, List.all_flatMap, List.all_eq_true] at spaced
  refine List.all_eq_true.mpr fun word member => isWhole_of_inert ?_
  have apart := spaced word member
  rw [List.all_append, Bool.and_eq_true] at apart
  rw [String.toList_ofList]
  exact apart.1

/-- A literal is compared with its characters at once, where reading them off it takes long. -/
theorem inert_ofList {cs : List Char} (inert : cs.all isInert = true) :
    (String.ofList cs).toList.all isInert = true := by
  rw [String.toList_ofList, inert]

theorem after?_ofList {place : Place} {depth : Nat} {cs : List Char} {there : Option (Place × Nat)}
    (reads : place.after? depth cs = there) :
    place.after? depth (String.ofList cs).toList = there := by
  rw [String.toList_ofList, reads]

theorem inert_append {front back : String} (inert : front.toList.all isInert = true)
    (inert' : back.toList.all isInert = true) : (front ++ back).toList.all isInert = true := by
  rw [String.toList_append, List.all_append, inert, inert']
  rfl

section Words

variable {text : String} (whole : isWholeCode text = true)

include whole

theorem piecesOf_code :
    SyntaxTree.piecesOf (code text) =
      (codeWords text.toList).map fun word => ⟨String.ofList word, false⟩ := by
  rw [isWholeCode, List.all_eq_true] at whole
  unfold code
  generalize codeWords text.toList = words at whole ⊢
  induction words with
  | nil => rfl
  | cons word words ih =>
      rw [List.forall_mem_cons] at whole
      rw [List.map_cons, SyntaxTree.piecesOf, pieces_codeToken whole.1, ih whole.2]
      rfl

theorem leading_code : leading (code text) = (text ++ " ").toList := by
  have words := flatMap_codeWords text.toList
  rw [String.toList_append, leading, piecesOf_code whole, spaced, List.flatMap_map]
  simp [Piece.gap, ← words]

theorem apart_code : Apart (code text) := by
  have pieces := piecesOf_code whole
  rcases List.eq_nil_or_concat (codeWords text.toList) with none | ⟨front, last, words⟩
  · exact absurd none (codeWords_ne_nil _)
  · rw [words, List.concat_eq_append, List.map_append] at pieces
    exact apart_of_last pieces rfl

theorem trailing_code : trailing (code text) = text.toList := by
  have apart := (apart_code whole).leading
  rw [leading_code whole, String.toList_append] at apart
  exact (List.append_cancel_right apart).symm

theorem trailing_between {front back : List SyntaxTree} (before : Apart front)
    (behind : Apart back) :
    trailing (front ++ code text ++ back) =
      trailing front ++ ((" " ++ text ++ " ").toList ++ trailing back) := by
  rw [trailing_append _ behind, leading_append, before.leading, leading_code whole]
  simp

end Words

end Wiring.Grammar
