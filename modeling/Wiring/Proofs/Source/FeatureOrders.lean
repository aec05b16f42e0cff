import Wiring.Proofs.Expansion.Agreement
import Wiring.Proofs.Grammar.Numerals
import Wiring.Proofs.Source.ParameterNames

/-!
# The order of a provider

The argument `feature_order` of a module attribute takes an integer literal, which a minus sign may
stand in front of. The literal alone has to be smaller than the bound, whatever the sign. See
`featureOrder_of_moduleArguments` and `moduleArguments_order`.
-/

set_option autoImplicit false

namespace Wiring.Source

open Wiring.Expansion
open Wiring.Grammar
open Wiring.Grammar.Reader

/-! ## Readers that pass over other arguments -/

def Unordered (tokens : List SyntaxTree) : Prop :=
  ∀ tree ∈ tokens, Ahead.word "feature_order" [tree] = false

/-- A reader that succeeds has taken tokens away, and none of them is the name of the argument. -/
def PassesOver {α : Type} (reader : Reader α) : Prop :=
  ∀ scope state value last, reads reader scope state = some (value, last) →
    ∃ taken, state.rest = taken ++ last.rest ∧ Unordered taken

section Passing

variable {α β : Type}

def Stays (reader : Reader α) : Prop :=
  ∀ scope state value last, reads reader scope state = some (value, last) → last = state

theorem Stays.passesOver {reader : Reader α} (stays : Stays reader) : PassesOver reader := by
  intro scope state value last read
  obtain rfl := stays _ _ _ _ read
  exact ⟨[], rfl, List.forall_mem_nil _⟩

theorem stays_pure (value : α) : Stays (pure value) := by
  rintro scope state _ last ⟨⟩
  rfl

theorem stays_peek (test : List SyntaxTree → Bool) : Stays (peek test) := by
  rintro scope state _ last ⟨⟩
  rfl

theorem stays_lineAhead : Stays lineAhead := by
  intro scope state value last read
  rw [reads_lineAhead] at read
  cases read
  rfl

theorem stays_refuseAt (line : Nat) (cause : Cause) : Stays (refuseAt line cause : Reader α) := by
  intro scope state value last read
  cases read

theorem PassesOver.bind {reader : Reader α} {next : α → Reader β} (first : PassesOver reader)
    (later : ∀ value, PassesOver (next value)) : PassesOver (reader >>= next) := by
  intro scope state value last read
  obtain ⟨found, middle, read, further⟩ := exists_of_reads_bind read
  obtain ⟨taken, split, unordered⟩ := first _ _ _ _ read
  obtain ⟨more, rest, alsoUnordered⟩ := later found _ _ _ _ further
  refine ⟨taken ++ more, by rw [split, rest, List.append_assoc], ?_⟩
  exact List.forall_mem_append.mpr ⟨unordered, alsoUnordered⟩

theorem passesOver_ite {condition : Prop} [Decidable condition] {left right : Reader α}
    (holds : PassesOver left) (fails : PassesOver right) :
    PassesOver (if condition then left else right) := by
  split <;> assumption

theorem passesOver_token {reader : Reader α}
    (token : ∀ scope state value last, reads reader scope state = some (value, last) →
      ∃ tree, state.rest = tree :: last.rest ∧ Ahead.word "feature_order" [tree] = false) :
    PassesOver reader := by
  intro scope state value last read
  obtain ⟨tree, split, other⟩ := token _ _ _ _ read
  exact ⟨[tree], split, List.forall_mem_singleton.mpr other⟩

theorem passesOver_valueSign : PassesOver valueSign := by
  refine passesOver_token fun scope ⟨tokens, leftOver⟩ value last read => ?_
  cases sign : Ahead.punct "=" tokens with
  | false =>
      rw [valueSign, reads_bind, reads_punct_of_not sign] at read
      cases read
  | true =>
      rw [valueSign, reads_bind, reads_punct_of sign (rfl : _ = 1)] at read
      cases read
      obtain ⟨kind, line, whole, rest, rfl, rfl | rfl⟩ := exists_of_mark rfl sign
      · exact ⟨_, rfl, rfl⟩
      · exact ⟨_, rfl, rfl⟩

theorem exists_of_word {text : String} {tokens : List SyntaxTree}
    (word : Ahead.word text tokens = true) :
    ∃ line whole rest, tokens = .token .ident text line whole :: rest := by
  unfold Ahead.word at word
  split at word
  · obtain rfl := beq_iff_eq.mp word
    exact ⟨_, _, _, rfl⟩
  · cases word

theorem passesOver_truthValue : PassesOver truthValue := by
  refine passesOver_token fun scope ⟨tokens, leftOver⟩ value last read => ?_
  rw [truthValue, reads_bind, reads_peek, Option.bind_some, reads_ite] at read
  split at read
  · obtain ⟨line, whole, rest, rfl⟩ := exists_of_word ‹_›
    rw [reads_bind, reads_anyWord_word] at read
    cases read
    exact ⟨_, rfl, (by decide : ("true" == "feature_order") = false)⟩
  · rw [reads_bind, reads_peek, Option.bind_some, reads_ite, reads_expected] at read
    split at read
    · obtain ⟨line, whole, rest, rfl⟩ := exists_of_word ‹_›
      rw [reads_bind, reads_anyWord_word] at read
      cases read
      exact ⟨_, rfl, (by decide : ("false" == "feature_order") = false)⟩
    · cases read

theorem passesOver_stringLiteral : PassesOver stringLiteral := by
  refine passesOver_token fun scope ⟨tokens, leftOver⟩ value last read => ?_
  match tokens with
  | .token .literal text line whole :: rest =>
      rw [reads_stringLiteral_literal] at read
      split at read
      · cases read
        exact ⟨_, rfl, rfl⟩
      · cases read
  | [] | .node _ _ :: _ | .group _ _ _ _ :: _ => cases read
  | .token .ident _ _ _ :: _ | .token .punct _ _ _ :: _ | .token .joined _ _ _ :: _
  | .token .lifetime _ _ _ :: _ => cases read

theorem passesOver_group (delimiter : Delimiter) (body : Reader α) :
    PassesOver (group delimiter body) := by
  refine passesOver_token fun scope ⟨tokens, leftOver⟩ value last read => ?_
  cases ahead : Ahead.group delimiter tokens with
  | false =>
      rw [reads_group_of_not body ahead] at read
      cases read
  | true =>
      obtain ⟨inner, openLine, closeLine, rest, rfl⟩ := exists_of_group ahead
      rw [reads_group, Option.map_eq_some_iff] at read
      obtain ⟨found, -, same⟩ := read
      cases same
      exact ⟨_, rfl, rfl⟩

theorem passesOver_flagValue : PassesOver flagValue := by
  unfold flagValue
  refine (stays_peek _).passesOver.bind fun found => passesOver_ite ?_ (stays_pure _).passesOver
  exact passesOver_valueSign.bind fun _ => passesOver_truthValue

theorem passesOver_stringValueOf : PassesOver stringValueOf :=
  stays_lineAhead.passesOver.bind fun _ =>
    passesOver_stringLiteral.bind fun _ => (stays_pure _).passesOver

theorem passesOver_verbValue : PassesOver verbValue := by
  refine passesOver_valueSign.bind fun _ => passesOver_stringValueOf.bind fun found => ?_
  dsimp only
  split
  · exact (stays_pure _).passesOver
  · exact (stays_refuseAt _ _).passesOver

theorem passesOver_methodValue (nested : Nested) : PassesOver (skim nested .method) := by
  refine passesOver_valueSign.bind fun _ => passesOver_stringValueOf.bind fun found => ?_
  exact passesOver_ite (stays_pure _).passesOver (stays_refuseAt _ _).passesOver

theorem passesOver_skim (nested : Nested) {name : String} (other : name ≠ "feature_order") :
    PassesOver (skim nested (moduleForm name)) := by
  unfold moduleForm
  split
  case h_7 => exact absurd rfl other
  case h_5 => exact passesOver_verbValue.bind fun _ => (stays_pure _).passesOver
  case h_6 => exact passesOver_methodValue nested
  case h_11 => exact (stays_refuseAt _ _).passesOver
  case h_8 | h_9 =>
      refine PassesOver.bind ?_ fun _ => (stays_pure _).passesOver
      exact (passesOver_group _ _).bind fun _ => (stays_pure _).passesOver
  case h_10 => exact (passesOver_group _ _).bind fun _ => (stays_pure _).passesOver
  all_goals exact passesOver_flagValue.bind fun _ => (stays_pure _).passesOver

end Passing

/-! ## Literals -/

section Literals

variable {scope : Grammar.Scope} {after : List SyntaxTree} {text : String} {line : Nat}
  {whole : isWhole (TokenKind.literal == .joined) text = true} {leftOver : Option LeftOver}
  {depth : Nat}

theorem reads_exprForm_literal (deep : 3 ≤ depth) (ends : ¬Astray after) :
    reads (exprForm (nonterminal depth)) scope
        ⟨.token .literal text line whole :: after, leftOver⟩ =
      some (.node .literalExpr [.token .literal text line whole], ⟨after, leftOver⟩) := by
  obtain ⟨depth, rfl⟩ := Nat.exists_eq_add_of_le' deep
  exact reads_exprForm_of_signedLiteral rfl ends

theorem reads_exprForm_negative {signLine : Nat}
    {signWhole : isWhole (TokenKind.punct == .joined) "-" = true} (deep : 3 ≤ depth)
    (ends : ¬Astray after) :
    reads (exprForm (nonterminal depth)) scope
        ⟨.token .punct "-" signLine signWhole :: .token .literal text line whole :: after,
          leftOver⟩ =
      some (.node .unaryExpr [.token .punct "-" signLine signWhole,
        .node .literalExpr [.token .literal text line whole]], ⟨after, leftOver⟩) := by
  obtain ⟨depth, rfl⟩ := Nat.exists_eq_add_of_le' deep
  exact reads_exprForm_of_signedLiteral rfl ends

theorem depthFor_ge (tokens : List SyntaxTree) : 3 ≤ depthFor tokens := by
  unfold depthFor
  omega

end Literals

/-! ## One argument -/

section Arguments

variable {nested : Nested} {scope : Grammar.Scope} {path : SyntaxTree} {name : String}
  {gathered given : ModuleArguments} {tokens : List SyntaxTree} {leftOver : Option LeftOver}
  {state last : ReaderState}

theorem natAbs_signed (isNegative : Bool) (magnitude : Nat) :
    (if isNegative then -(magnitude : Int) else magnitude).natAbs = magnitude := by
  cases isNegative with
  | false => exact Int.natAbs_natCast magnitude
  | true => exact (Int.natAbs_neg _).trans (Int.natAbs_natCast magnitude)

theorem gives_integerValue (nested : Nested) :
    Gives (fun value => value.natAbs < integerLimit) (integerValue nested) := by
  refine .bind fun _ => .bind fun _ => .bind fun value => ?_
  dsimp only
  split
  · split
    · refine .ite (fun small => .pure ?_) fun _ => gives_refuseAt _ _
      rwa [natAbs_signed]
    · exact gives_refuseAt _ _
  · exact gives_refuseAt _ _

/-- An argument leaves the order as it was, or is called so and gives one below the bound. -/
theorem featureOrder_of_moduleArgument (named : path.lonePathName? = some name) :
    Gives (fun given => given.featureOrder = gathered.featureOrder ∨
        name = "feature_order" ∧ given.featureOrder.natAbs < integerLimit)
      (moduleArgument nested path gathered) := by
  refine ⟨fun {scope state given last} read => ?_⟩
  rw [moduleArgument, reads_bind, reads_argumentName named, Option.bind_some] at read
  refine (?_ : Gives (fun given : ModuleArguments =>
    given.featureOrder = gathered.featureOrder ∨
      name = "feature_order" ∧ given.featureOrder.natAbs < integerLimit) _).good read
  refine .ite (fun _ => .bind fun _ => .pure (.inl rfl)) fun _ => ?_
  refine .ite (fun _ => .bind fun _ => .pure (.inl rfl)) fun _ => ?_
  refine .ite (fun _ => .bind fun _ => .pure (.inl rfl)) fun _ => ?_
  refine .ite (fun _ => .bind fun _ => .bind fun _ =>
    .ite (fun _ => .pure (.inl rfl)) fun _ => gives_refuseAt _ _) fun _ => ?_
  refine .ite (fun _ => .bind fun _ => .pure (.inl rfl)) fun _ => ?_
  refine .ite (fun _ => .bind fun _ => .pure (.inl rfl)) fun _ => ?_
  refine .ite (fun _ => .bind fun _ => .pure (.inl rfl)) fun _ => ?_
  refine .ite (fun _ => .bind fun _ => .pure (.inl rfl)) fun _ => ?_
  refine .ite (fun same => (gives_integerValue nested).bind_of fun value small =>
    .pure (.inr ⟨eq_of_beq same, small⟩)) fun _ => ?_
  exact .ite (fun _ => .bind fun _ => .pure (.inl rfl)) fun _ => gives_refuseAt _ _

theorem gives_moduleArgument (small : gathered.featureOrder.natAbs < integerLimit) :
    Gives (fun given => given.featureOrder.natAbs < integerLimit)
      (moduleArgument nested path gathered) := by
  refine ⟨fun {scope state given last} read => ?_⟩
  cases named : path.lonePathName? with
  | none =>
      rw [moduleHandles.unnamed named] at read
      cases read
  | some name =>
      rcases (featureOrder_of_moduleArgument named).good read with same | ⟨-, bounded⟩
      · rwa [same]
      · exact bounded

theorem word_of_argumentPath
    (read : reads argumentPath scope ⟨tokens, leftOver⟩ = some (path, last))
    (named : path.lonePathName? = some name) :
    ∃ line whole, tokens = .token .ident name line whole :: last.rest := by
  by_cases alone : ∃ text line whole rest, tokens = .token .ident text line whole :: rest ∧
      Ahead.punct "::" rest = false
  · obtain ⟨text, line, whole, rest, rfl, alone⟩ := alone
    rw [reads_argumentPath_of_word alone] at read
    cases read
    obtain rfl := Option.some.inj named
    exact ⟨line, whole, rfl⟩
  · refine absurd (lonePathName?_of_reads (fun text line whole rest same => ?_) read) ?_
    · by_contra missing
      exact alone ⟨text, line, whole, rest, same, Bool.eq_false_iff.mpr missing⟩
    · rw [named]
      exact Option.some_ne_none _

def oneArgument (nested : Nested) (gathered : ModuleArguments) : Reader ModuleArguments :=
  argumentPath >>= fun path => moduleArgument nested path gathered

/-- An argument that another name begins is passed over, and leaves the order as it was. -/
theorem oneArgument_other (others : Unordered (tokens.take 1))
    (read : reads (oneArgument nested gathered) scope ⟨tokens, leftOver⟩ = some (given, last)) :
    given.featureOrder = gathered.featureOrder ∧
      ∃ taken, tokens = taken ++ last.rest ∧ Unordered taken := by
  rw [oneArgument, reads_bind, Option.bind_eq_some_iff] at read
  obtain ⟨⟨path, behind⟩, begins, read⟩ := read
  cases named : path.lonePathName? with
  | none =>
      rw [moduleHandles.unnamed named] at read
      cases read
  | some name =>
      obtain ⟨line, whole, rfl⟩ := word_of_argumentPath begins named
      have other : name ≠ "feature_order" := by
        rintro rfl
        exact absurd (others _ List.mem_cons_self) (by simp [Ahead.word])
      have skimmed : (reads (moduleArgument nested path gathered) scope behind).map (·.2) = _ :=
        reads_moduleArgument nested named gathered
      rw [read] at skimmed
      obtain ⟨⟨⟨⟩, after⟩, skims, same⟩ := Option.map_eq_some_iff.mp skimmed.symm
      obtain rfl : after = last := same
      obtain ⟨taken, split, unordered⟩ := passesOver_skim nested other _ _ _ _ skims
      have kept := ((featureOrder_of_moduleArgument named).good read).resolve_right
        fun order => other order.1
      refine ⟨kept, .token .ident name line whole :: taken, ?_, ?_⟩
      · rw [List.cons_append, ← split]
      · exact List.forall_mem_cons.mpr ⟨others _ List.mem_cons_self, unordered⟩

/-! ## Several arguments -/

/-- Behind an argument there is an end, a last comma or a comma and further arguments. -/
theorem afterArgument_cases {σ : Type} {handle : SyntaxTree → σ → Reader σ} {fuel : Nat}
    {gathered given : σ} {after : List SyntaxTree}
    (read : reads (afterArgument handle fuel gathered) scope ⟨after, leftOver⟩ =
      some (given, last)) :
    (after.drop 1 = [] ∧ ¬Astray after ∧ given = gathered) ∨
      (Ahead.punct "," after = true ∧
        reads (argumentList.loop handle fuel gathered) scope ⟨after.drop 1, leftOver⟩ =
          some (given, last)) := by
  obtain rfl | astray | comma := nil_or_astray_or_comma after
  · cases read
    exact .inl ⟨rfl, fun astray => astray.1 rfl, rfl⟩
  · rw [reads_afterArgument_of_astray astray] at read
    cases read
  · rw [reads_afterArgument_of_comma comma] at read
    split at read
    · rename_i nothing
      cases read
      exact .inl ⟨List.isEmpty_iff.mp nothing, not_astray_iff.mpr (.inr comma), rfl⟩
    · exact .inr ⟨comma, read⟩

theorem Unordered.subset {tokens taken : List SyntaxTree} (unordered : Unordered tokens)
    (among : taken ⊆ tokens) : Unordered taken :=
  fun tree member => unordered tree (among member)

theorem featureOrder_of_loop {fuel : Nat} (unordered : Unordered tokens)
    (read : reads (argumentList.loop (moduleArgument nested) fuel gathered) scope
      ⟨tokens, leftOver⟩ = some (given, last)) :
    given.featureOrder = gathered.featureOrder := by
  induction fuel generalizing tokens gathered leftOver with
  | zero =>
      cases read
      rfl
  | succ fuel ih =>
      rw [reads_argumentList_loop_succ, Option.bind_eq_some_iff] at read
      obtain ⟨⟨middle, ⟨after, leftNow⟩⟩, first, later⟩ := read
      obtain ⟨kept, taken, rfl, -⟩ :=
        oneArgument_other (unordered.subset (List.take_subset 1 tokens)) first
      rcases afterArgument_cases later with ⟨-, -, rfl⟩ | ⟨-, later⟩
      · exact kept
      · rw [← kept]
        refine ih (unordered.subset fun tree member => ?_) later
        exact List.mem_append_right _ (List.mem_of_mem_drop member)

/-- The order stays below the bound, whatever the arguments are. -/
theorem gives_loop {fuel : Nat} (small : gathered.featureOrder.natAbs < integerLimit) :
    Gives (fun given => given.featureOrder.natAbs < integerLimit)
      (argumentList.loop (moduleArgument nested) fuel gathered) := by
  refine ⟨fun {scope state given last} read => ?_⟩
  induction fuel generalizing gathered state with
  | zero =>
      cases read
      exact small
  | succ fuel ih =>
      rw [reads_argumentList_loop_succ, Option.bind_eq_some_iff] at read
      obtain ⟨⟨middle, ⟨after, leftNow⟩⟩, first, later⟩ := read
      have bounded : middle.featureOrder.natAbs < integerLimit :=
        (Gives.bind fun _ => gives_moduleArgument small).good first
      rcases afterArgument_cases later with ⟨-, -, rfl⟩ | ⟨-, later⟩
      · exact bounded
      · exact ih bounded later

/-- Tokens that are taken off the front and hold no name leave the name where it is. -/
theorem split_before_name {front rest taken after : List SyntaxTree} {name : SyntaxTree}
    (isName : Ahead.word "feature_order" [name] = true) (unordered : Unordered taken)
    (split : front ++ name :: rest = taken ++ after) :
    ∃ left, front = taken ++ left ∧ after = left ++ name :: rest := by
  rcases List.append_eq_append_iff.mp split with ⟨more, rfl, same⟩ | ⟨left, rfl, rfl⟩
  · cases more with
    | nil => exact ⟨[], by simp, by simpa using same.symm⟩
    | cons tree more =>
        obtain ⟨rfl, -⟩ := List.cons.inj same
        have other := unordered name (by simp)
        rw [isName] at other
        cases other
  · exact ⟨left, rfl, rfl⟩

theorem reaches_name {front rest : List SyntaxTree} {name : SyntaxTree} {fuel : Nat}
    (isName : Ahead.word "feature_order" [name] = true) (unordered : Unordered front)
    (read : reads (argumentList.loop (moduleArgument nested) fuel gathered) scope
      ⟨front ++ name :: rest, leftOver⟩ = some (given, last)) (ends : last.rest = []) :
    ∃ fuel gathered leftOver,
      reads (argumentList.loop (moduleArgument nested) (fuel + 1) gathered) scope
        ⟨name :: rest, leftOver⟩ = some (given, last) := by
  -- On the bound of the loop. Each argument in front takes tokens among which the name is not.
  induction fuel generalizing front gathered leftOver with
  | zero =>
      cases read
      simp at ends
  | succ fuel ih =>
      cases front with
      | nil => exact ⟨fuel, gathered, leftOver, read⟩
      | cons tree front =>
          rw [reads_argumentList_loop_succ, Option.bind_eq_some_iff] at read
          obtain ⟨⟨middle, ⟨after, leftNow⟩⟩, first, later⟩ := read
          obtain ⟨-, taken, split, passed⟩ :=
            oneArgument_other (unordered.subset (by simp)) first
          obtain ⟨left, same, rfl⟩ := split_before_name isName passed split
          have behind : Unordered left :=
            unordered.subset (same ▸ List.subset_append_right taken left)
          obtain ⟨line, whole, further, rest_eq⟩ := exists_of_word isName
          obtain ⟨rfl, -⟩ := List.cons.inj rest_eq
          cases left with
          | nil =>
              have astray : Astray (.token .ident "feature_order" line whole :: rest) :=
                ⟨List.cons_ne_nil _ _, rfl⟩
              rcases afterArgument_cases later with ⟨-, ended, -⟩ | ⟨comma, -⟩
              · exact absurd astray ended
              · exact absurd comma (Bool.eq_false_iff.mp astray.2)
          | cons sign more =>
              rcases afterArgument_cases later with ⟨nothing, -, -⟩ | ⟨-, later⟩
              · simp at nothing
              · exact ih (behind.subset (List.subset_cons_self sign more)) later

/-! ## The argument itself -/

/-- Tokens that write an order: the name, an equals sign, and an integer literal behind a minus sign
or alone. -/
inductive WritesOrder : Int → List SyntaxTree → Prop where
  | plain {text : String} {literal : IntegerLiteral} {nameLine line : Nat} {equals : SyntaxTree}
      (named : isWhole (TokenKind.ident == .joined) "feature_order" = true)
      (whole : isWhole (TokenKind.literal == .joined) text = true)
      (assigns : Ahead.punct "=" [equals] = true) (denotes : integerLiteral? text = some literal) :
      WritesOrder literal.value
        [.token .ident "feature_order" nameLine named, equals, .token .literal text line whole]
  | negated {text : String} {literal : IntegerLiteral} {nameLine line signLine : Nat}
      {equals : SyntaxTree}
      (named : isWhole (TokenKind.ident == .joined) "feature_order" = true)
      (whole : isWhole (TokenKind.literal == .joined) text = true)
      (minus : isWhole (TokenKind.punct == .joined) "-" = true)
      (assigns : Ahead.punct "=" [equals] = true) (denotes : integerLiteral? text = some literal) :
      WritesOrder (-literal.value)
        [.token .ident "feature_order" nameLine named, equals, .token .punct "-" signLine minus,
          .token .literal text line whole]

section Order

variable {n : Int} {order back : List SyntaxTree} {depth : Nat}

theorem reads_moduleArgument_order (nested : Nested)
    (named : path.lonePathName? = some "feature_order") :
    reads (moduleArgument nested path gathered) scope state =
      (reads (integerValue nested) scope state).map fun step =>
        ({ gathered with featureOrder := step.1 }, step.2) := by
  rw [moduleArgument, reads_bind, reads_argumentName named, Option.bind_some]
  show reads (integerValue nested >>= fun value =>
    pure { gathered with featureOrder := value }) scope state = _
  rw [reads_bind]
  cases reads (integerValue nested) scope state <;> rfl

theorem reads_integerValue {nested : Nested} {equals value literalTree : SyntaxTree}
    {isNegative : Bool} {text : String} {line : Nat} {literal : IntegerLiteral}
    {whole : isWhole (TokenKind.literal == .joined) text = true}
    (assigns : Ahead.punct "=" (equals :: tokens) = true)
    (read : reads (exprForm nested) scope ⟨tokens, leftOver⟩ = some (value, last))
    (signed : signOf value = (isNegative, literalTree))
    (bare : literalTree.bare = .node .literalExpr [.token .literal text line whole])
    (denotes : integerLiteral? text = some literal) :
    reads (integerValue nested) scope ⟨equals :: tokens, leftOver⟩ =
      if literal.value < integerLimit then
        some (if isNegative then -(literal.value : Int) else literal.value, last)
      else none := by
  rw [exprForm] at read
  rw [integerValue, reads_valueSign _ assigns, List.drop_one, List.tail_cons, reads_bind,
    reads_lineAhead, Option.bind_some, reads_bind, read, Option.bind_some]
  split
  rename_i negative unsigned same
  obtain ⟨rfl, rfl⟩ : negative = isNegative ∧ unsigned = literalTree :=
    Prod.mk.inj (Eq.trans (b := signOf value) same.symm signed)
  rw [bare]
  dsimp only
  rw [denotes]
  dsimp only
  rw [reads_ite]
  rfl

/-- The value of an order is read if the literal is below the bound, and refused otherwise. -/
theorem reads_oneArgument_order (deep : 3 ≤ depth) (writes : WritesOrder n order)
    (ends : ¬Astray back) :
    reads (oneArgument (nonterminal depth) gathered) scope ⟨order ++ back, leftOver⟩ =
      if n.natAbs < integerLimit then
        some ({ gathered with featureOrder := n }, ⟨back, leftOver⟩)
      else none := by
  have noColons {equals : SyntaxTree} (assigns : Ahead.punct "=" [equals] = true)
      (rest : List SyntaxTree) : Ahead.punct "::" (equals :: rest) = false ∧
        Ahead.punct "=" (equals :: rest) = true := by
    obtain ⟨kind, line, whole, nothing, same, rfl | rfl⟩ := exists_of_mark rfl assigns
    · obtain ⟨rfl, -⟩ := List.cons.inj same
      exact ⟨rfl, rfl⟩
    · obtain ⟨rfl, -⟩ := List.cons.inj same
      exact ⟨rfl, rfl⟩
  cases writes with
  | plain named whole assigns denotes =>
      obtain ⟨alone, sign⟩ := noColons assigns (.token .literal _ _ whole :: back)
      rw [oneArgument, reads_bind]
      simp only [List.cons_append, List.nil_append]
      rw [reads_argumentPath_of_word alone, Option.bind_some, reads_moduleArgument_order _ rfl,
        reads_integerValue sign (reads_exprForm_literal deep ends) rfl rfl denotes,
        Int.natAbs_natCast]
      split <;> rfl
  | negated named whole minus assigns denotes =>
      obtain ⟨alone, sign⟩ :=
        noColons assigns (.token .punct "-" _ minus :: .token .literal _ _ whole :: back)
      rw [oneArgument, reads_bind]
      simp only [List.cons_append, List.nil_append]
      rw [reads_argumentPath_of_word alone, Option.bind_some, reads_moduleArgument_order _ rfl,
        reads_integerValue sign (reads_exprForm_negative deep ends) rfl rfl denotes, Int.natAbs_neg,
        Int.natAbs_natCast]
      split <;> rfl

theorem WritesOrder.exists_name (writes : WritesOrder n order) :
    ∃ name rest, order = name :: rest ∧ Ahead.word "feature_order" [name] = true := by
  cases writes <;> exact ⟨_, _, rfl, rfl⟩

end Order

end Arguments

/-! ## Decimal text -/

section Texts

theorem toList_argument (value : String) : ("feature_order = " ++ value).toList =
    [] ++ ("feature_order".toList ++ ([' '] ++ (['='] ++ ([' '] ++ value.toList)))) := by
  rw [String.toList_append]
  rfl

theorem oneSpace : ∀ c ∈ [' '], c = ' ' :=
  List.forall_mem_singleton.mpr rfl

/-- A name and an equals sign in front of a value lex to themselves and to the value. -/
theorem lex_argument {value : String} {tokens : List SyntaxTree}
    (lexed : ∀ fuel, lexemesFrom (fuel + 2) 1 ([' '] ++ value.toList) = tokens.map .tree) :
    ∃ named equals, lex ("feature_order = " ++ value) =
      .ok (.token .ident "feature_order" 1 named :: .token .punct "=" 1 equals :: tokens) := by
  have noMark : dropByteOrderMark ("feature_order = " ++ value).toList =
      ("feature_order = " ++ value).toList := by
    rw [toList_argument]
    rfl
  have stops : Stops ([' '] ++ (['='] ++ ([' '] ++ value.toList))) := by
    rintro c ⟨⟩
    exact .inr rfl
  obtain ⟨less, enough⟩ : ∃ less, ("feature_order = " ++ value).toList.length + 1 = less + 2 + 2 :=
    ⟨value.toList.length + 13, by rw [toList_argument]; simp⟩
  obtain ⟨named, name⟩ := lexemesFrom_word 1 (less + 2 + 1)
    (by decide : isWord "feature_order" = true) (List.forall_mem_nil _) stops
  obtain ⟨equals, sign⟩ := lexemesFrom_mark 1 (less + 2) oneSpace (.inl rfl)
    (rfl : startsPunct ([' '] ++ value.toList) = false)
  refine ⟨named, equals, ?_⟩
  rw [lex, lexFrom, noMark, enough, toList_argument, name, sign, lexed less]
  exact assemble_trees [] (_ :: _ :: tokens)

theorem exists_lex_order (n : Int) :
    ∃ order, lex ("feature_order = " ++ toString n) = .ok order ∧ WritesOrder n order := by
  cases n with
  | ofNat m =>
      obtain ⟨whole, -⟩ := lexemesFrom_toString 1 0 oneSpace m
      have number (fuel : Nat) : lexemesFrom (fuel + 2) 1 ([' '] ++ (toString m).toList) =
          [SyntaxTree.token .literal (toString m) 1 whole].map .tree :=
        (lexemesFrom_toString 1 (fuel + 1) oneSpace m).choose_spec
      obtain ⟨named, equals, lexed⟩ := lex_argument number
      exact ⟨_, lexed, .plain named whole rfl (integerLiteral?_toString m)⟩
  | negSucc m =>
      have apart := not_startsPunct_toString (m + 1)
      obtain ⟨minus, -⟩ := lexemesFrom_mark 1 0 oneSpace (.inr rfl) apart
      obtain ⟨whole, -⟩ := lexemesFrom_toString 1 0 oneSpace (m + 1)
      have number (fuel : Nat) :
          lexemesFrom (fuel + 2) 1 ([' '] ++ ("-" ++ toString (m + 1)).toList) =
          [SyntaxTree.token .punct "-" 1 minus, .token .literal (toString (m + 1)) 1 whole].map
            .tree := by
        obtain ⟨_, sign⟩ := lexemesFrom_mark 1 (fuel + 1) oneSpace (.inr rfl) apart
        obtain ⟨_, digits⟩ := lexemesFrom_toString 1 fuel (List.forall_mem_nil _) (m + 1)
        rw [String.toList_append]
        exact sign.trans (congrArg _ digits)
      obtain ⟨named, equals, lexed⟩ := lex_argument number
      exact ⟨_, lexed, .negated named whole minus rfl (integerLiteral?_toString (m + 1))⟩

end Texts

/-! ## Attributes -/

section Attributes

variable {marker : SyntaxTree} {arguments front order back : List SyntaxTree} {n : Int}

theorem exists_reads_of_carries (carries : Carries marker arguments) (something : arguments ≠ []) :
    ∃ scope, ∀ given, moduleArguments marker = .ok given ↔
      reads (argumentList.loop (moduleArgument (nonterminal (depthFor arguments)))
        (arguments.length + 1) .none) scope ⟨arguments, none⟩ = some (given, ⟨[], none⟩) := by
  obtain ⟨path, -, rfl⟩ | ⟨path, delimiter, openLine, closeLine, body⟩ := carries
  · exact absurd rfl something
  · refine ⟨⟨closeLine, none⟩, fun given => ?_⟩
    have read : moduleArguments marker =
        parseTokensIn (maybeArguments moduleArgument .none) ⟨closeLine, none⟩ arguments := by
      rw [moduleArguments, body, parseArgumentList, parseArguments, body]
      rfl
    rw [read, parseTokensIn, run_eq_ok_iff, reads_maybeArguments,
      if_neg (by simpa using something)]
    rfl

theorem featureOrder_lt_of_moduleArguments {given : ModuleArguments}
    (accepted : moduleArguments marker = .ok given) :
    given.featureOrder.natAbs < integerLimit := by
  have small : ModuleArguments.none.featureOrder.natAbs < integerLimit := by decide
  unfold moduleArguments parseArgumentList parseArguments at accepted
  split at accepted
  · cases accepted
    exact small
  · split at accepted
    · rw [parseTokensIn, run_eq_ok_iff] at accepted
      refine (?_ : Gives (fun given : ModuleArguments =>
        given.featureOrder.natAbs < integerLimit) _).good accepted
      refine .bind fun _ => .ite (fun _ => .pure small) fun _ => ?_
      exact .bind fun _ => gives_loop small
    all_goals cases accepted

/-- Wherever an attribute writes an order: if discovery accepts the attribute, then the literal is
below the bound, and the order of the module is the number that is written unless it is written
again. -/
theorem featureOrder_of_moduleArguments {given : ModuleArguments}
    (carries : Carries marker (front ++ (order ++ back))) (writes : WritesOrder n order)
    (before : Unordered front) (ends : ¬Astray back)
    (accepted : moduleArguments marker = .ok given) :
    n.natAbs < integerLimit ∧ (Unordered back → given.featureOrder = n) := by
  obtain ⟨name, rest, begins, isName⟩ := writes.exists_name
  have deep := depthFor_ge (front ++ (order ++ back))
  obtain ⟨scope, read⟩ := exists_reads_of_carries carries (by simp [begins])
  have whole : front ++ (order ++ back) = front ++ name :: (rest ++ back) := by
    rw [begins, List.cons_append]
  rw [read] at accepted
  generalize depthFor (front ++ (order ++ back)) = depth at deep accepted
  rw [whole] at accepted
  obtain ⟨fuel, gathered, leftOver, accepted⟩ := reaches_name isName before accepted rfl
  rw [← List.cons_append, ← begins, reads_argumentList_loop_succ, ← oneArgument,
    reads_oneArgument_order deep writes ends, Option.bind_eq_some_iff] at accepted
  obtain ⟨step, first, later⟩ := accepted
  obtain ⟨small, same⟩ := Option.ite_none_right_eq_some.mp first
  obtain rfl := Option.some.inj same
  refine ⟨small, fun behind => ?_⟩
  rcases afterArgument_cases later with ⟨-, -, rfl⟩ | ⟨-, later⟩
  · rfl
  · exact featureOrder_of_loop (behind.subset (List.drop_subset 1 back)) later

theorem moduleArguments_order (carries : Carries marker order) (writes : WritesOrder n order)
    (given : ModuleArguments) :
    moduleArguments marker = .ok given ↔
      n.natAbs < integerLimit ∧ given = { ModuleArguments.none with featureOrder := n } := by
  obtain ⟨name, rest, begins, -⟩ := writes.exists_name
  have deep := depthFor_ge order
  have alone : ¬Astray [] := fun astray => astray.1 rfl
  obtain ⟨scope, read⟩ := exists_reads_of_carries carries (by simp [begins])
  have first : reads (oneArgument (nonterminal (depthFor order)) .none) scope ⟨order ++ [], none⟩ =
      _ := reads_oneArgument_order deep writes alone
  rw [List.append_nil] at first
  rw [read, reads_argumentList_loop_succ, ← oneArgument, first]
  by_cases small : n.natAbs < integerLimit
  · rw [if_pos small, Option.bind_some]
    show some ({ ModuleArguments.none with featureOrder := n }, (⟨[], none⟩ : ReaderState)) = _ ↔ _
    simp [small, eq_comm]
  · simp [small]

end Attributes

/-! ## Descriptors -/

section Descriptors

variable {settings : Settings} {module : ModuleDescriptor}

theorem exists_featureOrder_of_moduleOf {index : Index} {file : FileFacts} {item : DeclaredItem}
    {found : FoundAttribute} (made : moduleOf index settings file item found = .ok module) :
    ∃ given, moduleArguments found.tree = .ok given ∧ module.featureOrder = given.featureOrder := by
  unfold moduleOf at made
  split at made
  · cases made
  · simp only [Outcome.bind_eq_ok_iff, Outcome.pure_eq_ok_iff, ofSyntax_eq_ok_iff] at made
    obtain ⟨given, accepted, rfl⟩ := made
    exact ⟨given, accepted, rfl⟩

theorem featureOrder_lt_of_mem_modules {sources : List SourceText}
    (member : (module, settings) ∈ (discover settings sources).modules) :
    module.featureOrder.natAbs < integerLimit := by
  rcases mem_modules_discover member with ⟨file, item, found, made⟩ | ⟨file, rfl⟩
  · obtain ⟨given, accepted, same⟩ := exists_featureOrder_of_moduleOf made
    rw [same]
    exact featureOrder_lt_of_moduleArguments accepted
  · exact (by decide : (0 : Int).natAbs < integerLimit)

end Descriptors

end Wiring.Source
