import Wiring.Proofs.Grammar.Productions

/-!
# Climbing over operators

Each round of a climb takes an operator and its operand, if the operator binds tightly enough, and
the fuel of a climb outlasts its rounds. So a climb from the lowest precedence may stop at any other
one on its way, and taking in what binds more tightly than an assignment is such a climb. See
`reads_climbs_lowest` and `reads_operands_assign`.
-/

set_option autoImplicit false

namespace Wiring.Grammar.Reader

variable {nested : Nested} {braces : Bool} {scope : Scope} {state : ReaderState}

/-! ## One round -/

/-- What a climb takes in one round: an operator and its operand. -/
def climbStep (nested : Nested) (operand : Precedence → Reader SyntaxTree)
    (upper : SyntaxTree → Reader (List SyntaxTree)) (left : SyntaxTree) : Reader SyntaxTree := do
  let found ← ahead
  match Ahead.operator? found with
  | some (text, precedence) =>
      if precedence == .compare && left.isComparison then refuse .comparisonChain
      else
        let operator ← punct text
        let right ← operand precedence
        return .node .binaryExpr [left, operator, right]
  | none =>
      if Ahead.punct "=" found && !Ahead.punct "=>" found then
        let equals ← punct "="
        let right ← operand .assign
        return .node .otherExpr [left, equals, right]
      else if Ahead.punct ".." found then
        let sign ← rangeSign false
        return .node .rangeExpr ([left, sign] ++ (← upper sign))
      else
        let word ← keyword "as"
        let target ← nested (.type false)
        checkCast
        return .node .otherExpr [left, word, target]

/-- Whether a climb goes on: an operator stands ahead that binds tightly enough. A range takes no
further operator. -/
def climbsOn (left : SyntaxTree) (base : Precedence) (ahead : List SyntaxTree) : Bool :=
  !left.hasKind .rangeExpr && Ahead.precedence ahead != .lowest &&
    base.rank ≤ (Ahead.precedence ahead).rank

theorem operator_of_mem {entry : String × Precedence} (listed : entry ∈ binaryOperators) :
    entry.1 ≠ "" ∧ entry.2 ≠ .lowest := by
  revert entry
  decide

theorem precedence_of_operator {ahead : List SyntaxTree} {text : String} {precedence : Precedence}
    (found : Ahead.operator? ahead = some (text, precedence)) :
    Ahead.precedence ahead = precedence ∧ text ≠ "" ∧ precedence ≠ .lowest := by
  have listed : (text, precedence) ∈ binaryOperators := List.mem_of_find?_eq_some found
  refine ⟨?_, operator_of_mem listed⟩
  rw [Ahead.precedence, found]

theorem precedence_of_none {ahead : List SyntaxTree} (found : Ahead.operator? ahead = none) :
    Ahead.precedence ahead =
      if Ahead.punct "=" ahead && !Ahead.punct "=>" ahead then .assign
      else if Ahead.punct ".." ahead then .range
      else if Ahead.word "as" ahead then .cast
      else .lowest := by
  rw [Ahead.precedence, found]

theorem not_further_of_assign {ahead : List SyntaxTree} (found : Ahead.punct "=" ahead = true) :
    Ahead.punct ".." ahead = false ∧ Ahead.word "as" ahead = false := by
  obtain ⟨kind, line, whole, rest, rfl, rfl | rfl⟩ := exists_of_punct found rfl
  · exact ⟨rfl, rfl⟩
  · exact ⟨rfl, rfl⟩

theorem not_cast_of_open {ahead : List SyntaxTree} (found : Ahead.punct ".." ahead = true) :
    Ahead.word "as" ahead = false := by
  obtain ⟨kind, line, whole, rest, rfl, rfl | rfl⟩ := exists_of_punct found rfl <;> rfl

theorem reads_climb_succ (fuel : Nat) (left : SyntaxTree) (base : Precedence) :
    reads (climb nested braces (fuel + 1) left base) scope state =
      if climbsOn left base state.rest then
        reads (climbStep nested (operand nested braces fuel) (rangeUpper nested braces fuel) left
          >>= fun left => climb nested braces fuel left base) scope state
      else some (left, state) := by
  rw [climb]
  generalize climb nested braces fuel = again, operand nested braces fuel = operand,
    rangeUpper nested braces fuel = upper
  rw [reads_bind, reads_ahead, Option.bind_some]
  dsimp only
  unfold climbsOn
  by_cases isRange : left.hasKind .rangeExpr = true
  · simp [isRange]
  rw [Bool.not_eq_true] at isRange
  rw [reads_bind, climbStep, reads_bind, reads_ahead, Option.bind_some]
  dsimp only
  match found : Ahead.operator? state.rest with
  | some (text, precedence) =>
      obtain ⟨same, -, notLowest⟩ := precedence_of_operator found
      by_cases low : precedence.rank < base.rank
      · simp [isRange, same, low, Nat.not_le.mpr low]
      · have enough : base.rank ≤ precedence.rank := Nat.not_lt.mp low
        simp only [isRange, same, low, enough]
        by_cases chain : (precedence == .compare && left.isComparison) = true
        · simp [chain, notLowest]
        · simp [chain, notLowest, Option.bind_assoc, -bind_pure_comp]
  | none =>
      have same := precedence_of_none found
      by_cases isAssign : (Ahead.punct "=" state.rest && !Ahead.punct "=>" state.rest) = true
      · rw [if_pos isAssign] at same
        obtain ⟨noRange, noCast⟩ := not_further_of_assign (Bool.and_eq_true_iff.mp isAssign).1
        by_cases enough : base.rank ≤ Precedence.assign.rank
        · simp [same, isRange, isAssign, enough, Option.bind_assoc, -bind_pure_comp]
        · simp [same, isRange, enough, noRange, noCast]
      have notAssign : (base.rank ≤ Precedence.assign.rank && Ahead.punct "=" state.rest &&
          !Ahead.punct "=>" state.rest) = false := by
        rw [Bool.and_assoc, Bool.eq_false_iff.mpr isAssign, Bool.and_false]
      rw [if_neg isAssign] at same
      rw [if_neg isAssign, notAssign]
      by_cases isOpen : Ahead.punct ".." state.rest = true
      · rw [if_pos isOpen] at same
        by_cases enough : base.rank ≤ Precedence.range.rank
        · simp [same, isRange, isOpen, enough, Option.bind_assoc, -bind_pure_comp]
        · simp [same, isRange, enough, isOpen, not_cast_of_open isOpen]
      rw [Bool.not_eq_true] at isOpen
      by_cases isCast : Ahead.word "as" state.rest = true
      · by_cases enough : base.rank ≤ Precedence.cast.rank
        · simp [same, isRange, isOpen, isCast, enough, Option.bind_assoc, -bind_pure_comp]
        · simp [same, isRange, enough, isOpen, isCast]
      · simp [same, isOpen, isCast]

/-! ## Rounds take tokens -/

/-- A reader that takes at least one token. -/
structure Shortens {α : Type} (reader : Reader α) : Prop where
  shorter : ∀ {scope before value after}, reads reader scope before = some (value, after) →
    after.rest.length < before.rest.length

theorem Shortens.bind {α β : Type} {first : Reader α} {next : α → Reader β}
    (shortens : Shortens first) [onward : ∀ value, Onward (next value)] :
    Shortens (first >>= next) := by
  refine ⟨fun read => ?_⟩
  obtain ⟨_, _, begun, read⟩ := exists_of_reads_bind read
  exact Nat.lt_of_le_of_lt ((onward _).past read).suffix.length_le (shortens.shorter begun)

theorem shortens_punct {text : String} (something : text ≠ "") : Shortens (punct text) := by
  refine ⟨fun {scope before value after} read => ?_⟩
  obtain ⟨rest, leftOver⟩ := before
  cases found : Ahead.punct text rest with
  | true =>
      obtain ⟨first, more, chars⟩ :=
        List.exists_cons_of_ne_nil (mt String.toList_eq_nil_iff.mp something)
      obtain ⟨kind, line, whole, behind, rfl, -⟩ := exists_of_punct found chars
      rw [reads_punct_of found rfl] at read
      obtain ⟨-, rfl⟩ := Prod.mk.inj (Option.some.inj read)
      have long : text.length = more.length + 1 := by
        rw [← String.length_toList, chars, List.length_cons]
      simp only [List.length_drop, List.length_cons, long]
      omega
  | false =>
      rw [reads_punct_of_not found] at read
      cases read

theorem shortens_keyword (text : String) : Shortens (keyword text) := by
  refine ⟨fun {scope before value after} read => ?_⟩
  obtain ⟨rest, leftOver⟩ := before
  rw [keyword, reads_bind, reads_ahead, Option.bind_some] at read
  dsimp only at read
  split at read
  · rename_i found
    rw [reads_bind, reads_lineAhead] at read
    obtain ⟨-, rfl⟩ := Prod.mk.inj (Option.some.inj read)
    cases rest with
    | nil => cases found
    | cons tree rest => exact Nat.lt_succ_self _
  · rw [reads_expected] at read
    cases read

theorem shortens_expected {α : Type} (alternatives : List String) :
    Shortens (expected alternatives : Reader α) := by
  refine ⟨fun read => ?_⟩
  rw [reads_expected] at read
  cases read

theorem Shortens.ite {α : Type} {condition : Prop} [Decidable condition] {left right : Reader α}
    (here : Shortens left) (there : Shortens right) :
    Shortens (if condition then left else right) := by
  split <;> assumption

theorem Shortens.peek {α : Type} {test : List SyntaxTree → Bool} {next : Bool → Reader α}
    (shortens : ∀ found, Shortens (next found)) : Shortens (Reader.peek test >>= next) :=
  ⟨fun read => (shortens _).shorter read⟩

theorem shortens_rangeSign (older : Bool) : Shortens (rangeSign older) := by
  unfold rangeSign
  refine .peek fun _ => .ite (shortens_punct (by decide)) (.peek fun _ => .ite ?_
    (.peek fun _ => ?_))
  · exact .ite (shortens_punct (by decide)) (shortens_expected _)
  · exact .ite (shortens_punct (by decide)) (shortens_expected _)

section Rounds

variable [OnwardForms nested] {operand : Precedence → Reader SyntaxTree}
  {upper : SyntaxTree → Reader (List SyntaxTree)}

theorem shortens_climbStep [∀ precedence, Onward (operand precedence)]
    [∀ sign, Onward (upper sign)] (left : SyntaxTree) :
    Shortens (climbStep nested operand upper left) := by
  refine ⟨fun {scope before value after} read => ?_⟩
  rw [climbStep, reads_bind, reads_ahead, Option.bind_some] at read
  dsimp only at read
  match found : Ahead.operator? before.rest with
  | some (text, precedence) =>
      rw [found] at read
      dsimp only at read
      rw [reads_ite, reads_refuse] at read
      split at read
      · cases read
      · exact (shortens_punct (precedence_of_operator found).2.1).bind.shorter read
  | none =>
      rw [found] at read
      dsimp only at read
      rw [reads_ite, reads_ite] at read
      split at read
      · exact (shortens_punct (show "=" ≠ "" by decide)).bind.shorter read
      · split at read
        · exact (shortens_rangeSign false).bind.shorter read
        · exact (shortens_keyword "as").bind.shorter read

omit [OnwardForms nested] in
/-- What a round takes depends on the readers of operands only where fewer tokens are left. -/
theorem climbStep_congr {operand' : Precedence → Reader SyntaxTree}
    {upper' : SyntaxTree → Reader (List SyntaxTree)} (left : SyntaxTree)
    (operands : ∀ precedence after, after.rest.length < state.rest.length →
      reads (operand precedence) scope after = reads (operand' precedence) scope after)
    (uppers : ∀ sign after, after.rest.length < state.rest.length →
      reads (upper sign) scope after = reads (upper' sign) scope after) :
    reads (climbStep nested operand upper left) scope state =
      reads (climbStep nested operand' upper' left) scope state := by
  rw [climbStep, climbStep, reads_bind, reads_bind, reads_ahead, Option.bind_some, Option.bind_some]
  dsimp only
  match found : Ahead.operator? state.rest with
  | some (text, precedence) =>
      dsimp only
      rw [reads_ite, reads_ite]
      split
      · rfl
      · refine reads_bind_congr rfl fun operator after taken => ?_
        have shorter := (shortens_punct (precedence_of_operator found).2.1).shorter taken
        rw [reads_bind, reads_bind, operands _ _ shorter]
  | none =>
      dsimp only
      rw [reads_ite, reads_ite, reads_ite, reads_ite]
      split
      · refine reads_bind_congr rfl fun equals after taken => ?_
        rw [reads_bind, reads_bind, operands _ _ ((shortens_punct (by decide)).shorter taken)]
      · split
        · refine reads_bind_congr rfl fun sign after taken => ?_
          rw [reads_bind, reads_bind, uppers _ _ ((shortens_rangeSign false).shorter taken)]
        · rfl

end Rounds

/-! ## Fuel outlasts the rounds -/

/-- Whether one unit more of fuel changes nothing where few enough tokens are ahead. -/
structure Lasts (nested : Nested) (braces : Bool) (fuel : Nat) : Prop where
  climb : ∀ {scope state} left base, 4 * state.rest.length + 1 ≤ fuel →
    reads (climb nested braces (fuel + 1) left base) scope state =
      reads (climb nested braces fuel left base) scope state
  tighten : ∀ {scope state} right precedence, 4 * state.rest.length + 2 ≤ fuel →
    reads (tighten nested braces (fuel + 1) right precedence) scope state =
      reads (tighten nested braces fuel right precedence) scope state
  operand : ∀ {scope state} precedence, 4 * state.rest.length + 3 ≤ fuel →
    reads (operand nested braces (fuel + 1) precedence) scope state =
      reads (operand nested braces fuel precedence) scope state
  upper : ∀ {scope state} sign, 4 * state.rest.length + 4 ≤ fuel →
    reads (rangeUpper nested braces (fuel + 1) sign) scope state =
      reads (rangeUpper nested braces fuel sign) scope state

section Fuel

variable [OnwardForms nested]

theorem lasts (fuel : Nat) : Lasts nested braces fuel := by
  induction fuel with
  | zero =>
      constructor <;>
      · intros
        omega
  | succ fuel ih =>
      constructor
      case climb =>
        intro scope state left base enough
        rw [reads_climb_succ, reads_climb_succ fuel]
        split
        · refine reads_bind_congr (climbStep_congr left
            (fun precedence after shorter => ih.operand precedence (by omega))
            (fun sign after shorter => ih.upper sign (by omega)))
            fun left after taken => ih.climb left base ?_
          have shorter := (shortens_climbStep _).shorter taken
          omega
        · rfl
      case tighten =>
        intro scope state right precedence enough
        rw [Reader.tighten, Reader.tighten, reads_bind, reads_bind, reads_ahead, Option.bind_some,
          Option.bind_some]
        dsimp only
        rw [reads_ite, reads_ite]
        split
        · refine reads_bind_congr (ih.climb _ _ (by omega)) fun right after taken => ?_
          have shorter := (Onward.past taken).suffix.length_le
          rw [reads_bind, reads_bind, reads_ahead, Option.bind_some, Option.bind_some, reads_ite,
            reads_ite]
          split
          · rfl
          · rename_i other
            dsimp only at other
            rw [beq_iff_eq] at other
            refine ih.tighten _ _ (?_ : 4 * after.rest.length + 2 ≤ fuel)
            omega
        · rfl
      case operand =>
        intro scope state precedence enough
        rw [Reader.operand, Reader.operand]
        refine reads_bind_congr rfl fun right after taken => ih.tighten _ _ ?_
        have shorter := (Onward.past taken).suffix.length_le
        omega
      case upper =>
        intro scope state sign enough
        rw [rangeUpper, rangeUpper]
        refine reads_bind_congr rfl fun ends after taken => ?_
        obtain rfl := (Prod.mk.inj (Option.some.inj taken)).2
        rw [reads_ite, reads_ite]
        split
        · rfl
        · exact reads_bind_congr (ih.operand _ (by omega)) fun _ _ _ => rfl

/-- What one unit more does not change from some fuel on is the same at all of them. -/
theorem eq_of_lasting {α : Type} (run : Nat → α) {least : Nat}
    (lasting : ∀ fuel, least ≤ fuel → run (fuel + 1) = run fuel) {fuel more : Nat}
    (enough : least ≤ fuel) (further : least ≤ more) : run fuel = run more := by
  have settles (fuel : Nat) (enough : least ≤ fuel) : run fuel = run least := by
    induction fuel, enough using Nat.le_induction with
    | base => rfl
    | succ fuel enough ih => rw [lasting fuel enough, ih]
  rw [settles fuel enough, settles more further]

/-! ## Without fuel -/

def climbs (nested : Nested) (braces : Bool) (left : SyntaxTree) (base : Precedence) :
    Reader SyntaxTree := do
  climb nested braces (← climbFuel) left base

def operands (nested : Nested) (braces : Bool) (precedence : Precedence) : Reader SyntaxTree := do
  operand nested braces (← climbFuel) precedence

def tightens (nested : Nested) (braces : Bool) (right : SyntaxTree) (precedence : Precedence) :
    Reader SyntaxTree := do
  tighten nested braces (← climbFuel) right precedence

def uppers (nested : Nested) (braces : Bool) (sign : SyntaxTree) : Reader (List SyntaxTree) := do
  rangeUpper nested braces (← climbFuel) sign

instance onward_climbs (left : SyntaxTree) (base : Precedence) :
    Onward (climbs nested braces left base) := by
  unfold climbs
  infer_instance

instance onward_operands (precedence : Precedence) :
    Onward (operands nested braces precedence) := by
  unfold operands
  infer_instance

instance onward_uppers (sign : SyntaxTree) : Onward (uppers nested braces sign) := by
  unfold uppers
  infer_instance

theorem reads_climbFuel {α : Type} (run : Nat → Reader α) :
    reads (climbFuel >>= run) scope state = reads (run (4 * state.rest.length + 8)) scope state :=
  rfl

theorem reads_climb {fuel : Nat} (left : SyntaxTree) (base : Precedence)
    (enough : 4 * state.rest.length + 1 ≤ fuel) :
    reads (climb nested braces fuel left base) scope state =
      reads (climbs nested braces left base) scope state := by
  rw [climbs, reads_climbFuel]
  exact eq_of_lasting (fun fuel => reads (climb nested braces fuel left base) scope state)
    (fun fuel enough => (lasts fuel).climb left base enough) enough (by omega)

theorem reads_operand {fuel : Nat} (precedence : Precedence)
    (enough : 4 * state.rest.length + 3 ≤ fuel) :
    reads (operand nested braces fuel precedence) scope state =
      reads (operands nested braces precedence) scope state := by
  rw [operands, reads_climbFuel]
  exact eq_of_lasting (fun fuel => reads (operand nested braces fuel precedence) scope state)
    (fun fuel enough => (lasts fuel).operand precedence enough) enough (by omega)

theorem reads_tighten {fuel : Nat} (right : SyntaxTree) (precedence : Precedence)
    (enough : 4 * state.rest.length + 2 ≤ fuel) :
    reads (tighten nested braces fuel right precedence) scope state =
      reads (tightens nested braces right precedence) scope state := by
  rw [tightens, reads_climbFuel]
  exact eq_of_lasting (fun fuel => reads (tighten nested braces fuel right precedence) scope state)
    (fun fuel enough => (lasts fuel).tighten right precedence enough) enough (by omega)

theorem reads_rangeUpper {fuel : Nat} (sign : SyntaxTree)
    (enough : 4 * state.rest.length + 4 ≤ fuel) :
    reads (rangeUpper nested braces fuel sign) scope state =
      reads (uppers nested braces sign) scope state := by
  rw [uppers, reads_climbFuel]
  exact eq_of_lasting (fun fuel => reads (rangeUpper nested braces fuel sign) scope state)
    (fun fuel enough => (lasts fuel).upper sign enough) enough (by omega)

theorem reads_climbs (left : SyntaxTree) (base : Precedence) :
    reads (climbs nested braces left base) scope state =
      if climbsOn left base state.rest then
        reads (climbStep nested (operands nested braces) (uppers nested braces) left >>=
          fun left => climbs nested braces left base) scope state
      else some (left, state) := by
  rw [climbs, reads_climbFuel, reads_climb_succ (4 * state.rest.length + 7)]
  split
  · refine reads_bind_congr (climbStep_congr left
      (fun precedence after shorter => reads_operand precedence (by omega))
      (fun sign after shorter => reads_rangeUpper sign (by omega))) fun left after taken => ?_
    have shorter := (shortens_climbStep _).shorter taken
    exact reads_climb left base (by omega)
  · rfl

theorem reads_operands (precedence : Precedence) :
    reads (operands nested braces precedence) scope state =
      reads (nested (.unary braces) >>= fun right => tightens nested braces right precedence) scope
        state := by
  rw [operands, reads_climbFuel, Reader.operand]
  refine reads_bind_congr rfl fun right after taken => ?_
  have shorter := (Onward.past taken).suffix.length_le
  exact reads_tighten right precedence (by omega)

theorem reads_tightens (right : SyntaxTree) (precedence : Precedence) :
    reads (tightens nested braces right precedence) scope state =
      if precedence.rank < (Ahead.precedence state.rest).rank ||
          (Ahead.precedence state.rest == precedence && precedence == .assign) then
        reads (climbs nested braces right (Ahead.precedence state.rest) >>= fun right => do
          if (← ahead).length == state.rest.length then return right
          else tightens nested braces right precedence) scope state
      else some (right, state) := by
  rw [tightens, reads_climbFuel, Reader.tighten, reads_bind, reads_ahead, Option.bind_some]
  dsimp only
  rw [reads_ite]
  split
  · refine reads_bind_congr (reads_climb _ _ (by omega)) fun right after taken => ?_
    have shorter := (Onward.past taken).suffix.length_le
    rw [reads_bind, reads_bind, reads_ahead, Option.bind_some, Option.bind_some, reads_ite,
      reads_ite]
    split
    · rfl
    · rename_i other
      dsimp only at other
      rw [beq_iff_eq] at other
      exact reads_tighten right precedence (by dsimp only; omega)
  · rfl

end Fuel

/-! ## Stops on the way -/

section Stops

variable [OnwardForms nested]

theorem climbsOn_lowest {left : SyntaxTree} {base : Precedence} {ahead : List SyntaxTree}
    (goesOn : climbsOn left base ahead = true) : climbsOn left .lowest ahead = true := by
  unfold climbsOn at goesOn ⊢
  rw [Bool.and_eq_true] at goesOn
  rw [goesOn.1, Bool.true_and]
  exact decide_eq_true (Nat.zero_le _)

/-- A climb from the lowest precedence may stop at any other one on its way. -/
theorem reads_climbs_lowest (left : SyntaxTree) (base : Precedence) :
    reads (climbs nested braces left .lowest) scope state =
      reads (climbs nested braces left base >>= fun left => climbs nested braces left .lowest) scope
        state := by
  induction size : state.rest.length using Nat.strongRecOn generalizing left state with
  | ind size ih =>
      rw [reads_bind, reads_climbs left base]
      by_cases goesOn : climbsOn left base state.rest = true
      · rw [if_pos goesOn, reads_climbs, if_pos (climbsOn_lowest goesOn), reads_bind, reads_bind,
          Option.bind_assoc]
        cases taken : reads (climbStep nested (operands nested braces) (uppers nested braces) left)
          scope state with
        | none => rfl
        | some step =>
            have shorter := (shortens_climbStep _).shorter taken
            exact (ih _ (size ▸ shorter) step.1 rfl).trans (reads_bind ..)
      · rw [if_neg goesOn, Option.bind_some]

/-- Without an operator ahead a climb stops. -/
theorem reads_climbs_of_lowest (left : SyntaxTree)
    (stops : Ahead.precedence state.rest = .lowest) :
    reads (climbs nested braces left .lowest) scope state = some (left, state) := by
  have idle : climbsOn left .lowest state.rest = false := by
    rw [climbsOn, stops, bne_self_eq_false, Bool.and_false, Bool.false_and]
  rw [reads_climbs, if_neg (by rw [idle]; exact Bool.false_ne_true)]

/-- Where a climb from the lowest precedence ends, no operator stands, unless it is behind a
range. -/
theorem precedence_of_climbs {left value : SyntaxTree} {after : ReaderState}
    (read : reads (climbs nested braces left .lowest) scope state = some (value, after)) :
    value.hasKind .rangeExpr = true ∨ Ahead.precedence after.rest = .lowest := by
  induction size : state.rest.length using Nat.strongRecOn generalizing left state with
  | ind size ih =>
      rw [reads_climbs] at read
      split at read
      · obtain ⟨_, _, taken, read⟩ := exists_of_reads_bind read
        exact ih _ (size ▸ (shortens_climbStep _).shorter taken) read rfl
      · rename_i stops
        obtain ⟨rfl, rfl⟩ := Prod.mk.inj (Option.some.inj read)
        by_cases isRange : left.hasKind .rangeExpr = true
        · exact .inl isRange
        · simpa [climbsOn, Precedence.rank, isRange] using stops

/-- Taking in what binds more tightly than an assignment, or is one, is a climb from the lowest
precedence. -/
theorem reads_tightens_assign (right : SyntaxTree) :
    reads (tightens nested braces right .assign) scope state =
      reads (climbs nested braces right .lowest) scope state := by
  induction size : state.rest.length using Nat.strongRecOn generalizing right state with
  | ind size ih =>
      rw [reads_tightens]
      generalize ahead : Ahead.precedence state.rest = next
      by_cases lowest : next = .lowest
      · subst lowest
        rw [if_neg (by decide), reads_climbs, if_neg]
        simp [climbsOn, ahead]
      have further : (Precedence.assign.rank < next.rank ||
          (next == .assign && Precedence.assign == .assign)) = true := by
        cases next <;> first | rfl | exact absurd rfl lowest
      rw [if_pos further, reads_climbs_lowest right next]
      by_cases goesOn : climbsOn right next state.rest = true
      · refine reads_bind_congr rfl fun value after taken => ?_
        rw [reads_climbs, if_pos goesOn] at taken
        have shorter := (shortens_climbStep right).bind.shorter taken
        rw [reads_bind, reads_ahead, Option.bind_some, reads_ite, if_neg]
        · exact ih _ (size ▸ shorter) value rfl
        · dsimp only
          rw [beq_iff_eq]
          omega
      · have isRange : right.hasKind .rangeExpr = true := by
          simpa [climbsOn, ahead, lowest] using goesOn
        have stays : reads (climbs nested braces right next) scope state = some (right, state) := by
          rw [reads_climbs, if_neg goesOn]
        rw [reads_bind, reads_bind, stays, Option.bind_some, Option.bind_some, reads_bind,
          reads_ahead, Option.bind_some, reads_ite, if_pos (beq_self_eq_true _), reads_climbs,
          if_neg]
        · rfl
        · simp [climbsOn, isRange]

/-- The operand of an assignment is all that an expression takes. -/
theorem reads_operands_assign :
    reads (operands nested braces .assign) scope state =
      reads (expr nested braces) scope state := by
  rw [reads_operands]
  exact reads_bind_congr rfl fun right after _ => reads_tightens_assign right

end Stops

end Wiring.Grammar.Reader
