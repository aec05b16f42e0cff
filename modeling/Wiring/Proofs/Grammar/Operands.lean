import Wiring.Proofs.Grammar.Climbing

/-!
# What an operand is

Of all productions of an expression only a literal gives a literal, only a sign gives a signed
operand, and only two dots give a range. See `reads_atom_cases`, `reads_trailers_cases` and
`reads_climbs_cases`.
-/

set_option autoImplicit false

namespace Wiring.Grammar

/-- Whether a tree is neither a literal, a signed operand nor a range. -/
def SyntaxTree.isComposed (tree : SyntaxTree) : Bool :=
  !tree.hasKind .literalExpr && !tree.hasKind .unaryExpr && !tree.hasKind .rangeExpr

/-- Whether a tree is neither a literal nor a signed operand. -/
def SyntaxTree.isUnsigned (tree : SyntaxTree) : Bool :=
  !tree.hasKind .literalExpr && !tree.hasKind .unaryExpr

theorem SyntaxTree.isUnsigned_of_isComposed {tree : SyntaxTree}
    (composed : tree.isComposed = true) : tree.isUnsigned = true :=
  (Bool.and_eq_true_iff.mp composed).1

theorem SyntaxTree.withAttributes_nil (tree : SyntaxTree) : tree.withAttributes [] = tree := by
  cases tree <;> rfl

theorem SyntaxTree.hasKind_withAttributes {kind : NodeKind} (other : kind ≠ .otherExpr)
    (attributes : List SyntaxTree) (tree : SyntaxTree) :
    (tree.withAttributes attributes).hasKind kind = tree.hasKind kind := by
  have apart : (NodeKind.otherExpr == kind) = false := beq_eq_false_iff_ne.mpr other.symm
  cases tree with
  | node found parts => rfl
  | token found text line whole =>
      show SyntaxTree.hasKind kind (if attributes.isEmpty then _ else _) = false
      split
      · rfl
      · exact apart
  | group delimiter body openLine closeLine =>
      show SyntaxTree.hasKind kind (if attributes.isEmpty then _ else _) = false
      split
      · rfl
      · exact apart

theorem SyntaxTree.isUnsigned_withAttributes {tree : SyntaxTree} (unsigned : tree.isUnsigned = true)
    (attributes : List SyntaxTree) : (tree.withAttributes attributes).isUnsigned = true := by
  rw [isUnsigned, hasKind_withAttributes (by decide), hasKind_withAttributes (by decide)]
  exact unsigned

theorem SyntaxTree.isComposed_withAttributes {tree : SyntaxTree} (composed : tree.isComposed = true)
    (attributes : List SyntaxTree) : (tree.withAttributes attributes).isComposed = true := by
  rw [isComposed, hasKind_withAttributes (by decide), hasKind_withAttributes (by decide),
    hasKind_withAttributes (by decide)]
  exact composed

namespace Reader

/-- A reader that gives only good values. -/
class Gives {α : Type} (good : α → Prop) (reader : Reader α) : Prop where
  good : ∀ {scope before value after}, reads reader scope before = some (value, after) → good value

/-- A reader that gives neither literals, signed operands nor ranges. -/
abbrev Composes : Reader SyntaxTree → Prop :=
  Gives fun tree => tree.isComposed = true

section Steps

variable {α β : Type} {good : β → Prop} {fine : α → Prop}

theorem Gives.bind {first : Reader α} {next : α → Reader β}
    (gives : ∀ value, Gives good (next value)) : Gives good (first >>= next) where
  good read := by
    obtain ⟨found, _, -, read⟩ := exists_of_reads_bind read
    exact (gives found).good read

instance gives_bind (first : Reader α) (next : α → Reader β)
    [gives : ∀ value, Gives good (next value)] : Gives good (first >>= next) :=
  .bind gives

theorem Gives.bind_of {first : Reader α} {next : α → Reader β}
    (begins : Gives fine first) (gives : ∀ value, fine value → Gives good (next value)) :
    Gives good (first >>= next) where
  good read := by
    obtain ⟨found, _, begun, read⟩ := exists_of_reads_bind read
    exact (gives found (begins.good begun)).good read

theorem Gives.ite {condition : Prop} [Decidable condition] {left right : Reader β}
    (holds : condition → Gives good left) (fails : ¬condition → Gives good right) :
    Gives good (if condition then left else right) := by
  split
  · exact holds ‹_›
  · exact fails ‹_›

instance gives_ite (condition : Prop) [Decidable condition] (left right : Reader β)
    [here : Gives good left] [there : Gives good right] :
    Gives good (if condition then left else right) :=
  .ite (fun _ => here) fun _ => there

theorem Gives.pure {value : β} (holds : good value) : Gives good (pure value) where
  good read := by
    obtain ⟨rfl, -⟩ := Prod.mk.inj (Option.some.inj read)
    exact holds

instance gives_expected (alternatives : List String) : Gives good (expected alternatives) where
  good read := by
    rw [reads_expected] at read
    cases read

instance gives_refuse (cause : Cause) : Gives good (refuse cause) where
  good read := by
    rw [reads_refuse] at read
    cases read

instance gives_refuseAt (line : Nat) (cause : Cause) : Gives good (refuseAt line cause) where
  good read := by cases read

instance composes_other (parts : List SyntaxTree) : Composes (pure (.node .otherExpr parts)) :=
  .pure rfl

instance composes_blockLike (parts : List SyntaxTree) :
    Composes (pure (.node .blockLikeExpr parts)) :=
  .pure rfl

instance composes_verbatim (parts : List SyntaxTree) : Composes (pure (.node .verbatim parts)) :=
  .pure rfl

instance composes_path (parts : List SyntaxTree) : Composes (pure (.node .pathExpr parts)) :=
  .pure rfl

instance composes_qualified (parts : List SyntaxTree) :
    Composes (pure (.node .qualifiedExpr parts)) :=
  .pure rfl

instance composes_macro (parts : List SyntaxTree) : Composes (pure (.node .macroExpr parts)) :=
  .pure rfl

instance composes_struct (parts : List SyntaxTree) : Composes (pure (.node .structExpr parts)) :=
  .pure rfl

instance composes_methodCall (parts : List SyntaxTree) :
    Composes (pure (.node .methodCallExpr parts)) :=
  .pure rfl

instance unsigned_of_composes (reader : Reader SyntaxTree) [composes : Composes reader] :
    Gives (fun tree => tree.isUnsigned = true) reader where
  good read := SyntaxTree.isUnsigned_of_isComposed (composes.good read)

instance unsigned_range (parts : List SyntaxTree) :
    Gives (fun tree : SyntaxTree => tree.isUnsigned = true) (pure (.node .rangeExpr parts)) :=
  .pure rfl

end Steps

section Productions

-- What follows a choice stands in each of its branches once the choice is opened.
set_option synthInstance.maxSize 4000

variable (nested : Nested)

instance composes_conditional : Composes (conditional nested) := by
  unfold conditional
  infer_instance

instance composes_whileLoop : Composes (whileLoop nested) := by
  unfold whileLoop
  infer_instance

instance composes_forLoop : Composes (forLoop nested) := by
  unfold forLoop
  infer_instance

instance composes_wordBlock (text : String) : Composes (wordBlock nested text) := by
  unfold wordBlock
  infer_instance

instance composes_matchExpr : Composes (matchExpr nested) := by
  unfold matchExpr
  infer_instance

instance composes_labelled : Composes (labelled nested) := by
  unfold labelled
  have attached (name colon : SyntaxTree) (body : Reader SyntaxTree) [begins : Composes body] :
      Composes (body >>= fun body => pure (body.withAttributes [name, colon])) :=
    begins.bind_of fun body composed => .pure (SyntaxTree.isComposed_withAttributes composed _)
  dsimp only
  infer_instance

instance composes_closure (braces : Bool) : Composes (closure nested braces) := by
  unfold closure
  infer_instance

instance composes_pathAtom (braces : Bool) : Composes (pathAtom nested braces) := by
  unfold pathAtom
  have path : Composes (exprPath nested) := by
    unfold exprPath qualifiedPath
    dsimp only
    infer_instance
  refine path.bind_of fun target composed => ?_
  have alone : Composes (pure target) := .pure composed
  dsimp only
  infer_instance

instance composes_parenthesizedExpr : Composes (parenthesizedExpr nested) := by
  unfold parenthesizedExpr
  refine .bind fun inside => .pure ?_
  split <;> rfl

instance composes_arrayExpr : Composes (arrayExpr nested) := by
  unfold arrayExpr
  infer_instance

instance composes_breakExpr (braces : Bool) : Composes (breakExpr nested braces) := by
  unfold breakExpr
  dsimp only
  infer_instance

instance composes_wordValue (text : String) : Composes (wordValue nested text) := by
  unfold wordValue
  infer_instance

instance composes_becomeExpr : Composes (becomeExpr nested) := by
  unfold becomeExpr
  infer_instance

instance composes_builtinExpr : Composes builtinExpr := by
  unfold builtinExpr
  infer_instance

instance composes_letExpr (braces : Bool) : Composes (letExpr nested braces) := by
  unfold letExpr
  infer_instance

instance composes_memberTrailer (base dot : SyntaxTree) :
    Composes (memberTrailer nested base dot) := by
  unfold memberTrailer
  dsimp only
  infer_instance

end Productions

instance unsigned_rangeAtom (nested : Nested) (braces : Bool) :
    Gives (fun tree => tree.isUnsigned = true) (rangeAtom nested braces) := by
  unfold rangeAtom
  infer_instance

-- What follows a choice stands in each of its branches once the choice is opened.
set_option synthInstance.maxSize 4000

variable {nested : Nested} {braces : Bool} {scope : Scope} {tokens : List SyntaxTree}
  {leftOver : Option LeftOver} {value : SyntaxTree} {after : ReaderState}

/-- An atom is a literal, a range, or composed. -/
theorem reads_atom_cases
    (read : reads (atom nested braces) scope ⟨tokens, leftOver⟩ = some (value, after)) :
    (Ahead.literal tokens = true ∧ reads literal scope ⟨tokens, leftOver⟩ = some (value, after)) ∨
      (Ahead.punct ".." tokens = true ∧ value.isUnsigned = true) ∨ value.isComposed = true := by
  rw [atom, reads_bind, reads_ahead, Option.bind_some] at read
  dsimp only at read
  by_cases isLiteral : Ahead.literal tokens = true
  · rw [if_pos isLiteral] at read
    exact .inl ⟨isLiteral, read⟩
  rw [if_neg isLiteral] at read
  by_cases isRange : Ahead.punct ".." tokens = true
  · refine .inr (.inl ⟨isRange, ?_⟩)
    exact (inferInstance : Gives (fun tree => tree.isUnsigned = true) _).good read
  · rw [Bool.not_eq_true] at isRange
    simp only [isRange, Bool.false_eq_true, if_false] at read
    exact .inr (.inr ((inferInstance : Composes _).good read))

theorem reads_literal_cases
    (read : reads literal scope ⟨tokens, leftOver⟩ = some (value, after)) :
    ∃ parts, value = .node .literalExpr parts := by
  rw [literal, reads_bind, reads_ahead, Option.bind_some] at read
  dsimp only at read
  split at read
  · obtain ⟨rfl, -⟩ := Prod.mk.inj (Option.some.inj read)
    exact ⟨_, rfl⟩
  · rw [reads_ite, reads_expected] at read
    split at read
    · obtain ⟨rfl, -⟩ := Prod.mk.inj (Option.some.inj read)
      exact ⟨_, rfl⟩
    · cases read
  · rw [reads_ite, reads_expected] at read
    split at read
    · obtain ⟨rfl, -⟩ := Prod.mk.inj (Option.some.inj read)
      exact ⟨_, rfl⟩
    · cases read
  · rw [reads_expected] at read
    cases read

/-! ## Trailers -/

theorem splitOnAux_ne_nil (text separator : String) (start position place : String.Pos.Raw)
    (parts : List String) :
    text.splitOnAux separator start position place parts ≠ [] := by
  fun_induction String.splitOnAux text separator start position place parts <;> simp_all

theorem splitOn_ne_nil (text separator : String) : text.splitOn separator ≠ [] := by
  unfold String.splitOn
  split
  · exact List.cons_ne_nil _ _
  · exact splitOnAux_ne_nil _ _ _ _ _ _

theorem composed_of_forIn {step : String → SyntaxTree → Reader (ForInStep SyntaxTree)}
    (steps : ∀ {part tree before turn after},
      reads (step part tree) scope before = some (turn, after) →
        ∃ next, turn = .yield next ∧ next.isComposed = true) {parts : List String} {base tree}
    {before : ReaderState}
    (read : reads (forIn parts base step) scope before = some (tree, after)) :
    parts = [] ∨ tree.isComposed = true := by
  induction parts generalizing base before with
  | nil => exact .inl rfl
  | cons part rest ih =>
      rw [List.forIn_cons] at read
      obtain ⟨turn, between, stepped, read⟩ := exists_of_reads_bind read
      obtain ⟨next, rfl, composed⟩ := steps stepped
      obtain rfl | composed := ih read
      · have read : reads (forIn [] next step) scope between = some (tree, after) := read
        rw [List.forIn_nil] at read
        obtain ⟨rfl, -⟩ := Prod.mk.inj (Option.some.inj read)
        exact .inr composed
      · exact .inr composed

/-- A number with a point names at least one field, or a further one is due. -/
theorem composed_of_indexChain {base dot tree : SyntaxTree} {text : String} {line : Nat}
    {goesOn : Bool} {before : ReaderState}
    (read : reads (indexChain base dot text line) scope before = some ((tree, goesOn), after)) :
    goesOn = true ∨ tree.isComposed = true := by
  rw [indexChain] at read
  dsimp only at read
  obtain ⟨found, between, loop, ended⟩ := exists_of_reads_bind read
  obtain ⟨same, -⟩ := Prod.mk.inj (Option.some.inj ended)
  obtain ⟨rfl, rfl⟩ := Prod.mk.inj same
  refine (composed_of_forIn (fun {part tree before turn after} read => ?_) loop).imp_left
    fun empty => ?_
  · split at read
    · obtain ⟨_, _, -, read⟩ := exists_of_reads_bind read
      obtain ⟨rfl, -⟩ := Prod.mk.inj (Option.some.inj read)
      exact ⟨_, rfl, rfl⟩
    · cases read
  · by_contra stops
    rw [if_neg stops] at empty
    exact splitOn_ne_nil _ _ empty

/-- A round of trailers stops, or goes on with what is composed. -/
theorem trailers_round {fuel : Nat} {base : SyntaxTree} {before : ReaderState}
    (read : reads (trailers.loop nested (fuel + 1) base) scope before = some (value, after)) :
    value = base ∧ after = before ∨ ∃ next between, next.isComposed = true ∧
      reads (trailers.loop nested fuel next) scope between = some (value, after) := by
  rw [trailers.loop, reads_bind, reads_ahead, Option.bind_some] at read
  dsimp only at read
  have member {base dot : SyntaxTree} {before : ReaderState}
      (read : reads (memberTrailer nested base dot >>= trailers.loop nested fuel) scope before =
        some (value, after)) : ∃ next between, next.isComposed = true ∧
      reads (trailers.loop nested fuel next) scope between = some (value, after) := by
    obtain ⟨next, between, found, read⟩ := exists_of_reads_bind read
    exact ⟨next, between, (composes_memberTrailer nested base dot).good found, read⟩
  rw [reads_ite] at read
  split at read
  · obtain ⟨arguments, between, -, read⟩ := exists_of_reads_bind read
    exact .inr ⟨_, between, rfl, read⟩
  rw [reads_ite] at read
  split at read
  · obtain ⟨dot, between, -, read⟩ := exists_of_reads_bind read
    obtain ⟨found, between, -, read⟩ := exists_of_reads_bind read
    split at read
    · rw [reads_ite] at read
      split at read
      · obtain ⟨_, between, -, read⟩ := exists_of_reads_bind read
        obtain ⟨⟨tree, goesOn⟩, between, chain, read⟩ := exists_of_reads_bind read
        dsimp only at read
        cases goesOn with
        | true => exact .inr (member read)
        | false =>
            obtain impossible | composed := composed_of_indexChain chain
            · cases impossible
            · exact .inr ⟨tree, between, composed, read⟩
      · exact .inr (member read)
    · exact .inr (member read)
  rw [reads_ite] at read
  split at read
  · obtain ⟨position, between, -, read⟩ := exists_of_reads_bind read
    exact .inr ⟨_, between, rfl, read⟩
  rw [reads_ite] at read
  split at read
  · obtain ⟨sign, between, -, read⟩ := exists_of_reads_bind read
    exact .inr ⟨_, between, rfl, read⟩
  · obtain ⟨rfl, rfl⟩ := Prod.mk.inj (Option.some.inj read)
    exact .inl ⟨rfl, rfl⟩

/-- Behind an operand there are no trailers, or they make it composed. -/
theorem reads_trailers_cases {base : SyntaxTree} {before : ReaderState}
    (read : reads (trailers nested base) scope before = some (value, after)) :
    value = base ∧ after = before ∨ value.isComposed = true := by
  rw [trailers, reads_bind, reads_ahead, Option.bind_some] at read
  dsimp only at read
  generalize 2 * before.rest.length + 2 = fuel at read
  induction fuel generalizing base before with
  | zero =>
      obtain ⟨rfl, rfl⟩ := Prod.mk.inj (Option.some.inj read)
      exact .inl ⟨rfl, rfl⟩
  | succ fuel ih =>
      obtain stays | ⟨next, between, composed, read⟩ := trailers_round read
      · exact .inl stays
      · obtain ⟨rfl, -⟩ | composed := ih read
        · exact .inr composed
        · exact .inr composed

/-! ## Operands -/

theorem isUnsigned_of_climbStep {operand : Precedence → Reader SyntaxTree}
    {upper : SyntaxTree → Reader (List SyntaxTree)} {left : SyntaxTree} {before : ReaderState}
    (read : reads (climbStep nested operand upper left) scope before = some (value, after)) :
    value.isUnsigned = true ∧
      (value.hasKind .rangeExpr = true → Ahead.punct ".." before.rest = true) := by
  rw [climbStep, reads_bind, reads_ahead, Option.bind_some] at read
  dsimp only at read
  split at read
  · rw [reads_ite, reads_refuse] at read
    split at read
    · cases read
    · obtain ⟨operator, between, -, read⟩ := exists_of_reads_bind read
      obtain ⟨right, between, -, read⟩ := exists_of_reads_bind read
      obtain ⟨rfl, -⟩ := Prod.mk.inj (Option.some.inj read)
      exact ⟨rfl, fun range => by cases range⟩
  · rw [reads_ite] at read
    split at read
    · obtain ⟨equals, between, -, read⟩ := exists_of_reads_bind read
      obtain ⟨right, between, -, read⟩ := exists_of_reads_bind read
      obtain ⟨rfl, -⟩ := Prod.mk.inj (Option.some.inj read)
      exact ⟨rfl, fun range => by cases range⟩
    · rw [reads_ite] at read
      split at read
      · rename_i dots
        obtain ⟨sign, between, -, read⟩ := exists_of_reads_bind read
        obtain ⟨upper, between, -, read⟩ := exists_of_reads_bind read
        obtain ⟨rfl, -⟩ := Prod.mk.inj (Option.some.inj read)
        exact ⟨rfl, fun _ => dots⟩
      · obtain ⟨word, between, -, read⟩ := exists_of_reads_bind read
        obtain ⟨target, between, -, read⟩ := exists_of_reads_bind read
        obtain ⟨_, between, -, read⟩ := exists_of_reads_bind read
        obtain ⟨rfl, -⟩ := Prod.mk.inj (Option.some.inj read)
        exact ⟨rfl, fun range => by cases range⟩

instance onward_climbStep [OnwardForms nested] (operand : Precedence → Reader SyntaxTree)
    (upper : SyntaxTree → Reader (List SyntaxTree)) [∀ precedence, Onward (operand precedence)]
    [∀ sign, Onward (upper sign)] (left : SyntaxTree) :
    Onward (climbStep nested operand upper left) := by
  unfold climbStep
  refine .bind inferInstance fun found => ?_
  split <;> infer_instance

/-- Operators behind an operand leave no literal and no signed operand, and make a range only with
two dots. -/
theorem reads_climbs_cases [OnwardForms nested] {left : SyntaxTree} {base : Precedence}
    {before : ReaderState}
    (read : reads (climbs nested braces left base) scope before = some (value, after)) :
    value = left ∧ after = before ∨ value.isUnsigned = true ∧
      (value.hasKind .rangeExpr = true → hasMark ".." before.rest = true) := by
  induction size : before.rest.length using Nat.strongRecOn generalizing left before with
  | ind size ih =>
      rw [reads_climbs] at read
      split at read
      · obtain ⟨next, between, taken, read⟩ := exists_of_reads_bind read
        obtain ⟨unsigned, dots⟩ := isUnsigned_of_climbStep taken
        have suffix := (Onward.past taken).suffix
        obtain ⟨rfl, rfl⟩ | ⟨unsigned, later⟩ :=
          ih _ (size ▸ (shortens_climbStep _).shorter taken) read rfl
        · exact .inr ⟨unsigned, fun range => hasMark_of_punct (dots range)⟩
        · exact .inr ⟨unsigned, fun range => hasMark_of_suffix suffix (later range)⟩
      · obtain ⟨rfl, rfl⟩ := Prod.mk.inj (Option.some.inj read)
        exact .inl ⟨rfl, rfl⟩

/-- What an operand is behind its attributes: composed, a sign and an operand, a literal, or a
range. -/
theorem reads_unary_cases {before : ReaderState}
    (read : reads (unary nested braces) scope before = some (value, after)) :
    ∃ attributes between, reads (outerAttributes nested) scope before = some (attributes, between) ∧
      (value.isComposed = true ∨
        (∃ text sign behind inner, reads (punct text) scope between = some (sign, behind) ∧
          reads (nested (.unary braces)) scope behind = some (inner, after) ∧
            value = .node .unaryExpr (attributes ++ [sign, inner])) ∨
        (∃ tree, Ahead.punct "-" between.rest = false ∧
          reads literal scope between = some (tree, after) ∧
            value = tree.withAttributes attributes) ∨
        Ahead.punct ".." between.rest = true ∧ value.isUnsigned = true) := by
  rw [unary, reads_bind, reads_ahead, Option.bind_some] at read
  obtain ⟨attributes, between, marked, read⟩ := exists_of_reads_bind read
  refine ⟨attributes, between, marked, ?_⟩
  rw [reads_bind, reads_ahead, Option.bind_some] at read
  dsimp only at read
  rw [reads_ite] at read
  split at read
  · exact .inl ((inferInstance : Composes _).good read)
  rw [reads_ite] at read
  split at read
  · have signed {text : String} (read : reads (punct text >>= fun sign =>
        nested (.unary braces) >>= fun inner =>
          pure (.node .unaryExpr (attributes ++ [sign, inner]))) scope between =
        some (value, after)) :
        ∃ sign behind inner, reads (punct text) scope between = some (sign, behind) ∧
          reads (nested (.unary braces)) scope behind = some (inner, after) ∧
            value = .node .unaryExpr (attributes ++ [sign, inner]) := by
      obtain ⟨sign, behind, signed, read⟩ := exists_of_reads_bind read
      obtain ⟨inner, last, operand, read⟩ := exists_of_reads_bind read
      obtain ⟨rfl, rfl⟩ := Prod.mk.inj (Option.some.inj read)
      exact ⟨sign, behind, inner, signed, operand, rfl⟩
    refine .inr (.inl ?_)
    rw [reads_ite, reads_ite] at read
    split at read
    · exact ⟨_, signed read⟩
    · split at read
      · exact ⟨_, signed read⟩
      · exact ⟨_, signed read⟩
  · rename_i noSign
    simp only [Bool.or_eq_true, not_or, Bool.not_eq_true] at noSign
    rw [reads_bind, reads_lineAhead, Option.bind_some] at read
    obtain ⟨base, behind, first, read⟩ := exists_of_reads_bind read
    obtain ⟨tree, last, further, read⟩ := exists_of_reads_bind read
    rw [reads_ite] at read
    split at read
    · exact .inl ((inferInstance : Composes _).good read)
    obtain ⟨rfl, rfl⟩ : value = tree.withAttributes attributes ∧ after = last := by
      rw [reads_ite] at read
      split at read
      · rename_i bare
        obtain ⟨rfl, rfl⟩ := Prod.mk.inj (Option.some.inj read)
        rw [List.isEmpty_iff.mp bare]
        exact ⟨(SyntaxTree.withAttributes_nil _).symm, rfl⟩
      · rw [reads_ite] at read
        split at read
        · cases read
        · obtain ⟨rfl, rfl⟩ := Prod.mk.inj (Option.some.inj read)
          exact ⟨rfl, rfl⟩
    obtain ⟨rfl, rfl⟩ | composed := reads_trailers_cases further
    · obtain ⟨-, isLiteral⟩ | ⟨dots, unsigned⟩ | composed := reads_atom_cases first
      · exact .inr (.inr (.inl ⟨_, noSign.2, isLiteral, rfl⟩))
      · exact .inr (.inr (.inr ⟨dots, SyntaxTree.isUnsigned_withAttributes unsigned _⟩))
      · exact .inl (SyntaxTree.isComposed_withAttributes composed _)
    · exact .inl (SyntaxTree.isComposed_withAttributes composed _)

theorem hasMark_of_unary {depth : Nat} {before : ReaderState}
    (read : reads (nonterminal depth (.unary braces)) scope before = some (value, after))
    (range : value.hasKind .rangeExpr = true) : hasMark ".." before.rest = true := by
  cases depth with
  | zero =>
      rw [nonterminal, reads_expected] at read
      cases read
  | succ depth =>
      obtain ⟨attributes, between, marked, composed | ⟨_, _, _, _, -, -, rfl⟩ |
        ⟨tree, -, found, rfl⟩ | ⟨dots, -⟩⟩ := reads_unary_cases read
      · rw [SyntaxTree.isComposed, range, Bool.not_true, Bool.and_false] at composed
        cases composed
      · cases range
      · obtain ⟨parts, rfl⟩ := reads_literal_cases found
        cases range
      · exact hasMark_of_suffix (Onward.past marked).suffix (hasMark_of_punct dots)

/-- An expression that is a range is made with two dots. -/
theorem hasMark_of_range {depth : Nat} {before : ReaderState}
    (read : reads (exprForm (nonterminal depth)) scope before = some (value, after))
    (range : value.hasKind .rangeExpr = true) : hasMark ".." before.rest = true := by
  cases depth with
  | zero =>
      rw [exprForm, nonterminal, reads_expected] at read
      cases read
  | succ depth =>
      have read : reads (nonterminal depth (.unary true) >>= fun left =>
        climbs (nonterminal depth) true left .lowest) scope before = some (value, after) := read
      obtain ⟨left, between, operand, read⟩ := exists_of_reads_bind read
      obtain ⟨rfl, rfl⟩ | ⟨-, dots⟩ := reads_climbs_cases read
      · exact hasMark_of_unary operand range
      · exact hasMark_of_suffix (Onward.past operand).suffix (dots range)

end Reader

end Wiring.Grammar
