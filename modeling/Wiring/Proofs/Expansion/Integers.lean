import Wiring.Proofs.Expansion.ReplayedForms
import Wiring.Proofs.Expansion.Values
import Wiring.Proofs.Grammar.Operands

/-!
# Integers

An expression that is an integer is a literal, which a sign may stand in front of, and attributes in
front of either. Where such a value ends the argument, nothing more is read as an operand. See
`reads_signedLiteral` and `reads_exprForm_of_signedLiteral`.
-/

set_option autoImplicit false

namespace Wiring.Expansion

open Wiring.Grammar
open Wiring.Grammar.Reader
open Wiring.Source (integerLimit integerValue)

/-! ## Values that are integers -/

def signOf (value : SyntaxTree) : Bool × SyntaxTree :=
  match value.bare with
  | .node .unaryExpr [sign, inner] => if sign.isPunct "-" then (true, inner) else (false, value)
  | _ => (false, value)

def isSmall (text : String) : Bool :=
  (integerLiteral? text).any fun found => found.value < integerLimit

def isSmallLiteral : SyntaxTree → Bool
  | .node .literalExpr [.token _ text _ _] => isSmall text
  | _ => false

def isInteger (value : SyntaxTree) : Bool :=
  isSmallLiteral (signOf value).2.bare

theorem hasKind_of_isSmallLiteral {tree : SyntaxTree} (small : isSmallLiteral tree.bare = true) :
    tree.hasKind .literalExpr = true := by
  cases tree with
  | token | group => cases small
  | node kind parts =>
      cases kind with
      | literalExpr => rfl
      | _ => cases small

theorem signOf_cases (value : SyntaxTree) :
    (∃ sign inner, value.bare = .node .unaryExpr [sign, inner] ∧ sign.isPunct "-" = true ∧
      signOf value = (true, inner)) ∨ signOf value = (false, value) := by
  unfold signOf
  split
  · split
    · exact .inl ⟨_, _, ‹_›, ‹_›, rfl⟩
    · exact .inr rfl
  · exact .inr rfl

/-- An integer is a literal, or has a minus in front of a literal. -/
theorem isInteger_cases {value : SyntaxTree} (integer : isInteger value = true) :
    value.hasKind .literalExpr = true ∨
      ∃ sign inner, value.bare = .node .unaryExpr [sign, inner] ∧ sign.isPunct "-" = true ∧
        inner.hasKind .literalExpr = true := by
  unfold isInteger at integer
  obtain ⟨sign, inner, bare, minus, same⟩ | same := signOf_cases value
  · rw [same] at integer
    exact .inr ⟨sign, inner, bare, minus, hasKind_of_isSmallLiteral integer⟩
  · rw [same] at integer
    exact .inl (hasKind_of_isSmallLiteral integer)

theorem isUnsigned_of_isInteger {value : SyntaxTree} (integer : isInteger value = true) :
    value.isUnsigned = false := by
  unfold SyntaxTree.isUnsigned
  obtain isLiteral | ⟨_, _, bare, -⟩ := isInteger_cases integer
  · rw [isLiteral]
    rfl
  · cases value with
    | token | group => cases bare
    | node kind parts =>
        obtain rfl := (SyntaxTree.node.inj bare).1
        rfl

/-- Behind the attributes of a signed operand that is an integer there are a minus and a literal. -/
theorem minus_of_isInteger {attributes : List SyntaxTree} {sign inner : SyntaxTree}
    (bare : sign.hasKind .attribute = false) (noLiteral : sign.hasKind .literalExpr = false)
    (integer : isInteger (.node .unaryExpr (attributes ++ [sign, inner])) = true) :
    sign.isPunct "-" = true ∧ inner.hasKind .literalExpr = true := by
  obtain impossible | ⟨first, second, same, minus, literal⟩ := isInteger_cases integer
  · cases impossible
  rw [SyntaxTree.bare, List.filter_append, List.filter_cons, bare, Bool.not_false, if_pos rfl]
    at same
  have parts := (SyntaxTree.node.inj same).2
  generalize attributes.filter (fun part => !part.hasKind .attribute) = kept at parts
  match kept with
  | [] =>
      obtain ⟨rfl, rest⟩ := List.cons.inj parts
      have among : second ∈ [inner].filter fun part => !part.hasKind .attribute := by
        rw [rest]
        exact List.mem_singleton_self second
      rw [← List.mem_singleton.mp (List.mem_of_mem_filter among)]
      exact ⟨minus, literal⟩
  | [_] =>
      have rest : sign :: _ = [second] := (List.cons.inj parts).2
      obtain ⟨rfl, -⟩ := List.cons.inj rest
      rw [noLiteral] at literal
      cases literal
  | _ :: _ :: _ =>
      have longer := congrArg List.length parts
      simp at longer

/-! ## Literals with attributes and a sign -/

/-- Reads a literal without a sign, behind its attributes. -/
def bareLiteral (nested : Nested) : Reader SyntaxTree := do
  let attributes ← outerAttributes nested
  if ← peek (Ahead.punct "-") then expected ["literal"]
  else return (← literal).withAttributes attributes

/-- Reads a literal or a minus and a literal, each behind its attributes. -/
def signedLiteral (outer inner : Nested) : Reader SyntaxTree := do
  let attributes ← outerAttributes outer
  if ← peek (Ahead.punct "-") then
    let sign ← punct "-"
    return .node .unaryExpr (attributes ++ [sign, ← bareLiteral inner])
  else return (← literal).withAttributes attributes

section Integers

variable {scope : Scope} {value : SyntaxTree} {before after : ReaderState} {depth : Nat}

theorem exists_of_reads_punct {text : String} {sign : SyntaxTree}
    (read : reads (punct text) scope before = some (sign, after)) :
    Ahead.punct text before.rest = true ∧ ∃ line whole, sign = .token .punct text line whole := by
  obtain ⟨rest, leftOver⟩ := before
  by_cases found : Ahead.punct text rest = true
  · rw [reads_punct_of found rfl] at read
    obtain ⟨rfl, -⟩ := Prod.mk.inj (Option.some.inj read)
    exact ⟨found, _, _, rfl⟩
  · rw [reads_punct_of_not (Bool.eq_false_iff.mpr found)] at read
    cases read

theorem reads_bareLiteral {nested : Nested}
    (read : reads (unary nested true) scope before = some (value, after))
    (isLiteral : value.hasKind .literalExpr = true) :
    reads (bareLiteral nested) scope before = some (value, after) := by
  have others : value.isUnsigned = false := by rw [SyntaxTree.isUnsigned, isLiteral]; rfl
  obtain ⟨attributes, between, marked, composed | ⟨_, _, _, _, -, -, rfl⟩ |
    ⟨tree, noSign, found, rfl⟩ | ⟨-, unsigned⟩⟩ := reads_unary_cases read
  · rw [SyntaxTree.isUnsigned_of_isComposed composed] at others
    cases others
  · cases isLiteral
  · rw [bareLiteral, reads_bind, marked, Option.bind_some, reads_bind, reads_peek,
      Option.bind_some, reads_ite, noSign, if_neg Bool.false_ne_true, reads_bind, found]
    rfl
  · rw [unsigned] at others
    cases others

/-- An operand that is an integer is read as a signed literal. -/
theorem reads_signedLiteral_of_unary {outer inner : Nested}
    (nests : outer (.unary true) = unary inner true)
    (read : reads (unary outer true) scope before = some (value, after))
    (integer : isInteger value = true) :
    reads (signedLiteral outer inner) scope before = some (value, after) := by
  have others := isUnsigned_of_isInteger integer
  obtain ⟨attributes, between, marked, composed |
    ⟨text, sign, behind, operand, signed, found, rfl⟩ | ⟨tree, noSign, found, rfl⟩ |
    ⟨-, unsigned⟩⟩ := reads_unary_cases read
  · rw [SyntaxTree.isUnsigned_of_isComposed composed] at others
    cases others
  · obtain ⟨mark, _, _, rfl⟩ := exists_of_reads_punct signed
    obtain ⟨minus, isLiteral⟩ := minus_of_isInteger rfl rfl integer
    obtain rfl : text = "-" := eq_of_beq minus
    rw [nests] at found
    rw [signedLiteral, reads_bind, marked, Option.bind_some, reads_bind, reads_peek,
      Option.bind_some, reads_ite, mark, if_pos rfl, reads_bind, signed, Option.bind_some,
      reads_bind, reads_bareLiteral found isLiteral]
    rfl
  · rw [signedLiteral, reads_bind, marked, Option.bind_some, reads_bind, reads_peek,
      Option.bind_some, reads_ite, noSign, if_neg Bool.false_ne_true, reads_bind, found]
    rfl
  · rw [unsigned] at others
    cases others

/-- An expression that is an integer is read as a signed literal. -/
theorem reads_signedLiteral
    (read : reads (exprForm (nonterminal (depth + 3))) scope before = some (value, after))
    (integer : isInteger value = true) :
    reads (signedLiteral (nonterminal (depth + 1)) (nonterminal depth)) scope before =
      some (value, after) := by
  have read : reads (nonterminal (depth + 2) (.unary true) >>= fun left =>
    climbs (nonterminal (depth + 2)) true left .lowest) scope before = some (value, after) := read
  obtain ⟨left, between, operand, read⟩ := exists_of_reads_bind read
  obtain ⟨rfl, rfl⟩ | ⟨unsigned, -⟩ := reads_climbs_cases read
  · exact reads_signedLiteral_of_unary rfl operand integer
  · rw [isUnsigned_of_isInteger integer] at unsigned
    cases unsigned

/-! ## Where an operand ends -/

variable {rest : List SyntaxTree} {leftOver : Option LeftOver} {nested : Nested}

theorem reads_trailers_of_ends (ends : ¬Astray rest) (base : SyntaxTree) :
    reads (trailers nested base) scope ⟨rest, leftOver⟩ = some (base, ⟨rest, leftOver⟩) := by
  obtain rfl | ⟨line, whole, rest, rfl⟩ | ⟨line, whole, rest, rfl⟩ := end_cases ends
  · rfl
  · rfl
  · rfl

theorem precedence_of_ends (ends : ¬Astray rest) : Ahead.precedence rest = .lowest := by
  obtain rfl | ⟨line, whole, rest, rfl⟩ | ⟨line, whole, rest, rfl⟩ := end_cases ends
  · rfl
  · rfl
  · rfl

theorem literal_of_reads (read : reads literal scope before = some (value, after)) :
    Ahead.literal before.rest = true := by
  obtain ⟨rest, leftOver⟩ := before
  rw [literal, reads_bind, reads_ahead, Option.bind_some] at read
  dsimp only at read
  unfold Ahead.literal
  split at read
  · rfl
  · rw [reads_ite, reads_expected] at read
    exact (Option.ite_none_right_eq_some.mp read).1
  · rw [reads_ite, reads_expected] at read
    have number := (Option.ite_none_right_eq_some.mp read).1
    split <;> grind
  · rw [reads_expected] at read
    cases read

/-- No mark but a minus stands at the head of a literal. -/
theorem not_punct_of_literal {text : String} {mark : Char} (single : text.toList = [mark])
    (other : mark ≠ '-') (isLiteral : Ahead.literal rest = true) :
    Ahead.punct text rest = false := by
  refine Bool.eq_false_iff.mpr fun found => ?_
  obtain ⟨kind, line, whole, after, rfl, kinds⟩ := exists_of_punct found single
  unfold Ahead.literal at isLiteral
  split at isLiteral
  · rename_i same
    obtain ⟨rfl, -⟩ := SyntaxTree.token.inj (List.cons.inj same).1
    simp at kinds
  · rename_i same
    obtain ⟨rfl, -⟩ := SyntaxTree.token.inj (List.cons.inj same).1
    simp at kinds
  · rename_i same
    obtain ⟨-, minus, -⟩ := SyntaxTree.token.inj (List.cons.inj same).1
    exact other (String.singleton_inj.mp minus)
  · cases isLiteral

theorem not_punct_of_minus {text : String} {mark : Char} (single : text.toList = [mark])
    (other : mark ≠ '-') (minus : Ahead.punct "-" rest = true) :
    Ahead.punct text rest = false := by
  refine Bool.eq_false_iff.mpr fun found => ?_
  obtain ⟨_, _, _, _, rfl, -⟩ := exists_of_punct found single
  obtain ⟨_, _, _, _, same, -⟩ := exists_of_punct minus (show "-".toList = ['-'] from rfl)
  obtain ⟨-, same, -⟩ := SyntaxTree.token.inj (List.cons.inj same).1
  exact other (String.singleton_inj.mp same)

/-- A literal behind its attributes is an operand where an argument may end behind it. -/
theorem reads_unary_of_literal {attributes : List SyntaxTree} {between : ReaderState}
    {tree : SyntaxTree}
    (marked : reads (outerAttributes nested) scope before = some (attributes, between))
    (noSign : Ahead.punct "-" between.rest = false)
    (found : reads literal scope between = some (tree, ⟨rest, leftOver⟩)) (ends : ¬Astray rest) :
    reads (unary nested true) scope before =
      some (tree.withAttributes attributes, ⟨rest, leftOver⟩) := by
  have isLiteral := literal_of_reads found
  obtain ⟨parts, rfl⟩ := reads_literal_cases found
  have noMark {text : String} {mark : Char} (single : text.toList = [mark]) (other : mark ≠ '-') :
      Ahead.punct text between.rest = false := not_punct_of_literal single other isLiteral
  have base : reads (atom nested true) scope between =
      some (.node .literalExpr parts, ⟨rest, leftOver⟩) := by
    rw [atom, reads_bind, reads_ahead, Option.bind_some]
    dsimp only
    rw [if_pos isLiteral, found]
  rw [unary, reads_bind, reads_ahead, Option.bind_some, reads_bind, marked, Option.bind_some,
    reads_bind, reads_ahead, Option.bind_some]
  dsimp only
  rw [noMark (show "&".toList = ['&'] from rfl) (by decide),
    noMark (show "*".toList = ['*'] from rfl) (by decide),
    noMark (show "!".toList = ['!'] from rfl) (by decide), noSign, if_neg Bool.false_ne_true,
    Bool.or_false, Bool.or_false, if_neg Bool.false_ne_true, reads_bind, reads_lineAhead,
    Option.bind_some, reads_bind, base, Option.bind_some, reads_bind,
    reads_trailers_of_ends ends, Option.bind_some]
  cases attributes with
  | nil => rfl
  | cons => rfl

theorem reads_unary_of_minus {attributes : List SyntaxTree} {between behind last : ReaderState}
    {sign inner : SyntaxTree}
    (marked : reads (outerAttributes nested) scope before = some (attributes, between))
    (signed : reads (punct "-") scope between = some (sign, behind))
    (found : reads (nested (.unary true)) scope behind = some (inner, last)) :
    reads (unary nested true) scope before =
      some (.node .unaryExpr (attributes ++ [sign, inner]), last) := by
  have minus := (exists_of_reads_punct signed).1
  have noMark {text : String} {mark : Char} (single : text.toList = [mark]) (other : mark ≠ '-') :
      Ahead.punct text between.rest = false := not_punct_of_minus single other minus
  rw [unary, reads_bind, reads_ahead, Option.bind_some, reads_bind, marked, Option.bind_some,
    reads_bind, reads_ahead, Option.bind_some]
  dsimp only
  rw [noMark (show "&".toList = ['&'] from rfl) (by decide),
    noMark (show "*".toList = ['*'] from rfl) (by decide),
    noMark (show "!".toList = ['!'] from rfl) (by decide), minus, if_neg Bool.false_ne_true,
    Bool.or_true, if_pos rfl, if_neg Bool.false_ne_true, if_neg Bool.false_ne_true, reads_bind,
    signed, Option.bind_some, reads_bind, found]
  rfl

theorem reads_unary_of_bareLiteral
    (read : reads (bareLiteral nested) scope before = some (value, ⟨rest, leftOver⟩))
    (ends : ¬Astray rest) :
    reads (unary nested true) scope before = some (value, ⟨rest, leftOver⟩) := by
  obtain ⟨attributes, between, marked, read⟩ := exists_of_reads_bind read
  rw [reads_bind, reads_peek, Option.bind_some, reads_ite, reads_expected] at read
  obtain ⟨noSign, read⟩ := Option.ite_none_left_eq_some.mp read
  obtain ⟨tree, between, found, same⟩ := exists_of_reads_bind read
  obtain ⟨rfl, rfl⟩ := Prod.mk.inj (Option.some.inj same)
  exact reads_unary_of_literal marked (Bool.eq_false_iff.mpr noSign) found ends

/-- A signed literal is an expression where an argument may end behind it. -/
theorem reads_exprForm_of_signedLiteral
    (read : reads (signedLiteral (nonterminal (depth + 1)) (nonterminal depth)) scope before =
      some (value, ⟨rest, leftOver⟩)) (ends : ¬Astray rest) :
    reads (exprForm (nonterminal (depth + 3))) scope before =
      some (value, ⟨rest, leftOver⟩) := by
  have operand : reads (nonterminal (depth + 2) (.unary true)) scope before =
      some (value, ⟨rest, leftOver⟩) := by
    obtain ⟨attributes, between, marked, read⟩ := exists_of_reads_bind read
    rw [reads_bind, reads_peek, Option.bind_some, reads_ite] at read
    split at read
    · obtain ⟨sign, behind, signed, read⟩ := exists_of_reads_bind read
      obtain ⟨inner, last, found, same⟩ := exists_of_reads_bind read
      obtain ⟨rfl, rfl⟩ := Prod.mk.inj (Option.some.inj same)
      exact reads_unary_of_minus marked signed (reads_unary_of_bareLiteral found ends)
    · rename_i noSign
      obtain ⟨tree, last, found, same⟩ := exists_of_reads_bind read
      obtain ⟨rfl, rfl⟩ := Prod.mk.inj (Option.some.inj same)
      exact reads_unary_of_literal marked (Bool.eq_false_iff.mpr noSign) found ends
  have whole : reads (exprForm (nonterminal (depth + 3))) scope before =
      reads (nonterminal (depth + 2) (.unary true) >>= fun left =>
        climbs (nonterminal (depth + 2)) true left .lowest) scope before := rfl
  rw [whole, reads_bind, operand, Option.bind_some]
  exact reads_climbs_of_lowest _ (precedence_of_ends ends)

/-! ## Tokens of an integer -/

/-- Whether only plain tokens stand between two states. -/
def Plainly (before after : ReaderState) : Prop :=
  ∃ front, before.rest = front ++ after.rest ∧ ∀ tree ∈ front, isPlain tree = true

theorem Plainly.refl (state : ReaderState) : Plainly state state :=
  ⟨[], rfl, List.forall_mem_nil _⟩

theorem Plainly.trans {first second third : ReaderState} (left : Plainly first second)
    (right : Plainly second third) : Plainly first third := by
  obtain ⟨front, same, plain⟩ := left
  obtain ⟨further, same', plain'⟩ := right
  refine ⟨front ++ further, by rw [same, same', List.append_assoc], fun tree found => ?_⟩
  exact (List.mem_append.mp found).elim (plain tree) (plain' tree)

theorem Plainly.cons {tree : SyntaxTree} {tokens : List SyntaxTree}
    (same : before.rest = tree :: tokens) (plain : isPlain tree = true)
    (rest : after.rest = tokens) : Plainly before after :=
  ⟨[tree], by rw [same, rest]; rfl, fun other found => List.mem_singleton.mp found ▸ plain⟩

theorem plainly_of_mark {text : String} [PlainMark text]
    (read : reads (punct text) scope before = some (value, after)) : Plainly before after := by
  obtain ⟨front, rest, same, rfl, plain, -⟩ := reads_punct_plain read
  exact ⟨front, same, plain⟩

theorem plainly_of_group {delimiter : Delimiter} {body : Reader (List SyntaxTree)}
    (read : reads (groupOf delimiter body) scope before = some (value, after)) :
    Plainly before after := by
  obtain ⟨tokens, leftOver⟩ := before
  obtain ⟨_, _, grouped, same⟩ := exists_of_reads_bind read
  obtain ⟨-, rfl⟩ := Prod.mk.inj (Option.some.inj same)
  by_cases found : Ahead.group delimiter tokens = true
  · obtain ⟨inner, openLine, closeLine, rest, rfl⟩ := exists_of_group found
    rw [reads_group, Option.map_eq_some_iff] at grouped
    obtain ⟨_, -, same⟩ := grouped
    obtain ⟨-, rfl⟩ := Prod.mk.inj same
    exact .cons rfl rfl rfl
  · rw [reads_group_of_not body (Bool.eq_false_iff.mpr found)] at grouped
    cases grouped

theorem plainly_of_attributes {attributes : List SyntaxTree}
    (read : reads (outerAttributes nested) scope before = some (attributes, after)) :
    Plainly before after := by
  rw [outerAttributes, manyUntil, reads_bind, reads_ahead, Option.bind_some] at read
  dsimp only at read
  generalize before.rest.length + 1 = fuel at read
  generalize [] = done at read
  -- On the bound of the loop. Each round takes a sign and brackets.
  induction fuel generalizing before done with
  | zero =>
      obtain ⟨-, rfl⟩ := Prod.mk.inj (Option.some.inj read)
      exact .refl _
  | succ fuel ih =>
      rw [manyUntil.loop, reads_bind, reads_bind, reads_peek, Option.bind_some, reads_pure,
        Option.bind_some, reads_ite] at read
      split at read
      · obtain ⟨-, rfl⟩ := Prod.mk.inj (Option.some.inj read)
        exact .refl _
      · obtain ⟨marker, between, one, read⟩ := exists_of_reads_bind read
        obtain ⟨sign, behind, signed, one⟩ := exists_of_reads_bind one
        have one : reads (groupOf .bracket (do return [← attributeMeta nested]) >>= fun body =>
          pure (.node .attribute ([sign] ++ [] ++ [body]))) scope behind =
            some (marker, between) := one
        obtain ⟨body, last, grouped, same⟩ := exists_of_reads_bind one
        obtain ⟨-, rfl⟩ := Prod.mk.inj (Option.some.inj same)
        exact ((plainly_of_mark signed).trans (plainly_of_group grouped)).trans (ih _ read)

theorem plainly_of_literal (read : reads literal scope before = some (value, after)) :
    Plainly before after := by
  obtain ⟨front, rest, same, rfl, plain, -⟩ := reads_literal_front read
  exact ⟨front, same, plain⟩

theorem plainly_of_bareLiteral
    (read : reads (bareLiteral nested) scope before = some (value, after)) :
    Plainly before after := by
  obtain ⟨attributes, between, marked, read⟩ := exists_of_reads_bind read
  rw [reads_bind, reads_peek, Option.bind_some, reads_ite, reads_expected] at read
  obtain ⟨tree, between, found, same⟩ :=
    exists_of_reads_bind (Option.ite_none_left_eq_some.mp read).2
  obtain ⟨-, rfl⟩ := Prod.mk.inj (Option.some.inj same)
  exact (plainly_of_attributes marked).trans (plainly_of_literal found)

theorem plainly_of_signedLiteral {inner : Nested}
    (read : reads (signedLiteral nested inner) scope before = some (value, after)) :
    Plainly before after := by
  obtain ⟨attributes, between, marked, read⟩ := exists_of_reads_bind read
  refine (plainly_of_attributes marked).trans ?_
  rw [reads_bind, reads_peek, Option.bind_some, reads_ite] at read
  split at read
  · obtain ⟨sign, behind, signed, read⟩ := exists_of_reads_bind read
    obtain ⟨tree, last, found, same⟩ := exists_of_reads_bind read
    obtain ⟨-, rfl⟩ := Prod.mk.inj (Option.some.inj same)
    exact (plainly_of_mark signed).trans (plainly_of_bareLiteral found)
  · obtain ⟨tree, last, found, same⟩ := exists_of_reads_bind read
    obtain ⟨-, rfl⟩ := Prod.mk.inj (Option.some.inj same)
    exact plainly_of_literal found

/-! ## Reading again -/

instance replays_bareLiteral {room more enter : Nat} [ReplaysForms nested] :
    Replays room more enter enter (bareLiteral nested) (bareLiteral nested) := by
  unfold bareLiteral
  infer_instance

instance replays_signedLiteral {room more enter : Nat} {inner : Nested} [ReplaysForms nested]
    [ReplaysForms inner] :
    Replays room more enter enter (signedLiteral nested inner) (signedLiteral nested inner) := by
  unfold signedLiteral
  infer_instance

/-- An integer is read alike by itself and where it stands. -/
theorem portable_integer {found after : List SyntaxTree}
    (split : splitValue 0 (found ++ after) = (found, after)) (ends : ¬Astray after)
    (fits : ∀ value, readAll (exprForm (nonterminal (depth + 3))) found = .ok value →
      isInteger value = true) :
    Portable scope (exprForm (nonterminal (depth + 3))) isInteger found after where
  fits read := fits _ read
  again read := by
    have signed := readAll_eq_ok_iff.mpr (reads_signedLiteral (readAll_eq_ok_iff.mp read)
      (fits _ read))
    exact reads_exprForm_of_signedLiteral (reads_of_readAll scope ends signed) ends
  back {value rest} read integer stops := by
    have signed := reads_signedLiteral read integer
    obtain ⟨front, same, plain⟩ := plainly_of_signedLiteral signed
    obtain rfl := eq_of_splitValue split same (splitValue_append_plain 0 plain rest) stops
    have whole := reads_exprForm_of_signedLiteral
      (readAll_eq_ok_iff.mp (readAll_of_reads stops signed)) not_astray_nil
    rw [readAll_eq_ok_iff.mpr whole]
    rfl

end Integers

/-- Discovery comes out after an integer exactly if the value is read as one. -/
theorem comes_skim_integer {scope : Scope} {tokens : List SyntaxTree} {depth : Nat}
    (deep : 6 ≤ depth)
    (settled : ∀ found after, splitAfterName tokens = some (.assigned found, after) →
      ∀ value, readAll (exprForm (nonterminal depth)) found = .ok value →
        isInteger value = true) :
    Comes (exit (skim (nonterminal depth) .integer) scope tokens)
      (passed (accepts (nonterminal depth) .integer) tokens) := by
  rw [skim, exit_then_pure, integerValue]
  refine comes_whole isInteger (fun tokens => exit_tested isInteger fun line value state => ?_)
    (fun rest ends => (forms_refuse deep ends).2.1) fun found after splits split ends => ?portable
  case portable =>
    have fits := settled found after splits
    obtain ⟨less, rfl⟩ := Nat.exists_eq_add_of_le' (Nat.le_trans (by decide : 3 ≤ 6) deep)
    exact portable_integer split ends fits
  split
  rename_i isNegative literal same
  obtain rfl : (signOf value).2 = literal := congrArg Prod.snd same
  unfold isInteger
  generalize (signOf value).2.bare = tree
  split
  · rename_i kind text _ whole
    have small (line : Nat) :
        isSmallLiteral (.node .literalExpr [.token kind text line whole]) =
          (integerLiteral? text).any fun found => found.value < integerLimit := rfl
    rw [small]
    cases integerLiteral? text with
    | none => rfl
    | some found =>
        dsimp only [Option.any_some]
        split
        · rename_i fits
          rw [if_pos (decide_eq_true fits)]
          rfl
        · rename_i large
          rw [if_neg (fun fits => large (of_decide_eq_true fits))]
          rfl
  · rename_i other
    have missing : isSmallLiteral tree = false := by
      unfold isSmallLiteral
      split
      · exact absurd rfl (other _ _ _ _)
      · rfl
    rw [missing]
    rfl

end Wiring.Expansion
