import Wiring.Proofs.Expansion.Forms
import Wiring.Proofs.Expansion.Replays
import Wiring.Proofs.Outcome

/-!
# Values of arguments

What a declaration attribute checks of the value behind the name of an argument, and where the
reader of discovery comes out behind it, for each form of values but lists.
-/

set_option autoImplicit false

namespace Wiring.Expansion

open Wiring.Grammar
open Wiring.Grammar.Reader
open Wiring.Source

/-! ## Where readers come out -/

section Outcomes

variable {α β : Type} {scope : Scope} {tokens : List SyntaxTree}

/-- The state after a reader of some tokens, unless it refuses them. -/
def exit (reader : Reader α) (scope : Scope) (tokens : List SyntaxTree) : Option ReaderState :=
  (reads reader scope ⟨tokens, none⟩).map (·.2)

/-- Whether arguments cannot be read to their end any more: there is something where an argument may
end, or a group has left something over. -/
def Lost (state : ReaderState) : Prop :=
  Astray state.rest ∨ state.leftOver.isSome = true

theorem not_lost {after : List SyntaxTree} (ends : ¬Astray after) : ¬Lost ⟨after, none⟩ :=
  fun lost => lost.elim ends Bool.false_ne_true

theorem exists_of_not_lost {state : ReaderState} (found : ¬Lost state) :
    state = ⟨state.rest, none⟩ ∧ ¬Astray state.rest := by
  obtain ⟨rest, leftOver⟩ := state
  refine ⟨?_, fun astray => found (.inl astray)⟩
  cases leftOver with
  | none => rfl
  | some left => exact absurd (.inr rfl) found

/-- Where a reader comes out: in front of the given tokens with nothing noted, or nowhere that
arguments can be read on from. -/
def Comes (exit : Option ReaderState) : Option (List SyntaxTree) → Prop
  | some after => exit = some ⟨after, none⟩
  | none => ∀ state, exit = some state → Lost state

theorem comes_none : Comes none none := by
  intro state found
  cases found

theorem comes_none_of_astray {state : ReaderState} (astray : Astray state.rest) :
    Comes (some state) none := by
  rintro _ ⟨⟩
  exact .inl astray

theorem exit_then_pure (reader : Reader α) (result : α → β) :
    exit (reader >>= fun value => pure (result value)) scope tokens = exit reader scope tokens :=
  map_reads_then_pure reader result

theorem exit_eq_some_iff {reader : Reader α} {state : ReaderState} :
    exit reader scope tokens = some state ↔
      ∃ value, reads reader scope ⟨tokens, none⟩ = some (value, state) := by
  rw [exit, Option.map_eq_some_iff]
  constructor
  · rintro ⟨⟨value, _⟩, read, rfl⟩
    exact ⟨value, read⟩
  · rintro ⟨value, read⟩
    exact ⟨_, read, rfl⟩

theorem readAll_eq_ok_iff {reader : Reader α} {value : α} :
    readAll reader tokens = .ok value ↔
      reads reader wholeText ⟨tokens, none⟩ = some (value, ⟨[], none⟩) := by
  rw [← run_eq_ok_iff, readAll]
  cases run reader wholeText tokens <;> simp [Except.mapError]

theorem readAll_isOk_iff {reader : Reader α} :
    (readAll reader tokens).isOk = true ↔ exit reader wholeText tokens = some ⟨[], none⟩ := by
  rw [exit_eq_some_iff]
  constructor
  · intro success
    obtain ⟨value, read⟩ := Outcome.exists_of_isOk success
    exact ⟨value, readAll_eq_ok_iff.mp read⟩
  · rintro ⟨value, read⟩
    rw [readAll_eq_ok_iff.mpr read]
    rfl

theorem reads_valueSign (reader : Reader α) {leftOver : Option LeftOver}
    (sign : Ahead.punct "=" tokens = true) :
    reads (valueSign >>= fun _ => reader) scope ⟨tokens, leftOver⟩ =
      reads reader scope ⟨tokens.drop 1, leftOver⟩ := by
  rw [reads_bind, valueSign, reads_bind, reads_punct_of sign (rfl : _ = 1)]
  rfl

theorem exit_valueSign (reader : Reader α) :
    exit (valueSign >>= fun _ => reader) scope tokens =
      if Ahead.punct "=" tokens = true then exit reader scope (tokens.drop 1) else none := by
  split
  · rename_i sign
    rw [exit, reads_valueSign reader sign]
    rfl
  · rename_i missing
    rw [exit, reads_bind, valueSign, reads_bind,
      reads_punct_of_not (Bool.eq_false_iff.mpr missing)]
    rfl

end Outcomes

/-! ## Values behind an equals sign -/

def passed (check : ArgumentValue → Bool) (tokens : List SyntaxTree) : Option (List SyntaxTree) :=
  (splitAfterName tokens).bind fun split =>
    if check split.1 = true ∧ ¬Astray split.2 then some split.2 else none

section Values

variable {α β : Type} {scope : Scope} {tokens found after : List SyntaxTree}
  {check : ArgumentValue → Bool} {reader : Reader α}

/-- A reader comes out after an assigned argument if it comes out after the value. -/
theorem comes_assigned_of_sign (sign : Ahead.punct "=" tokens = true)
    (empty : ∀ rest, ¬Astray rest → exit reader scope rest = none)
    (value : ∀ found after, found ≠ [] → splitValue 0 (found ++ after) = (found, after) →
      splitAfterName tokens = some (.assigned found, after) →
      Comes (exit reader scope (found ++ after))
        (if check (.assigned found) = true then some after else none)) :
    Comes (exit (valueSign >>= fun _ => reader) scope tokens) (passed check tokens) := by
  have whole := splitValue_append 0 (tokens.drop 1)
  have ends := not_astray_splitValue (tokens.drop 1)
  rw [exit_valueSign, if_pos sign, ← whole]
  cases missing : (splitValue 0 (tokens.drop 1)).1.isEmpty with
  | true =>
      have refuses : splitAfterName tokens = none := by
        unfold splitAfterName
        rw [if_pos sign, missing, if_pos rfl]
      rw [passed, refuses, List.isEmpty_iff.mp missing, List.nil_append, empty _ ends]
      exact comes_none
  | false =>
      have split : splitAfterName tokens =
          some (.assigned (splitValue 0 (tokens.drop 1)).1, (splitValue 0 (tokens.drop 1)).2) := by
        unfold splitAfterName
        rw [if_pos sign, missing, if_neg Bool.false_ne_true]
      rw [passed, split, Option.bind_some]
      simp only [ends, not_false_eq_true, and_true]
      exact value _ _ (List.isEmpty_eq_false_iff.mp missing) (by rw [whole]) split

theorem splitAfterName_of_not_sign (missing : ¬Ahead.punct "=" tokens = true) :
    (∃ body openLine closeLine after,
      tokens = .group .parenthesis body openLine closeLine :: after ∧
        splitAfterName tokens = some (.listed body, after)) ∨
      Ahead.group .parenthesis tokens = false ∧ splitAfterName tokens = some (.flag, tokens) := by
  unfold splitAfterName
  rw [if_neg missing]
  split
  · exact .inl ⟨_, _, _, _, rfl, rfl⟩
  · rename_i other
    refine .inr ⟨?_, rfl⟩
    cases listed : Ahead.group .parenthesis tokens with
    | false => rfl
    | true =>
        obtain ⟨body, openLine, closeLine, after, same⟩ := exists_of_group listed
        exact absurd same (other _ _ _ _)

theorem passed_of_not {value : ArgumentValue}
    (split : splitAfterName tokens = some (value, after)) (fails : ¬check value = true) :
    passed check tokens = none := by
  rw [passed, split, Option.bind_some, if_neg (fun both => fails both.1)]

/-- A reader of an assigned value comes out after the argument if it comes out after the value. -/
theorem comes_assigned
    (only : ∀ value, check value = true → ∃ found, value = .assigned found)
    (empty : ∀ rest, ¬Astray rest → exit reader scope rest = none)
    (value : ∀ found after, found ≠ [] → splitValue 0 (found ++ after) = (found, after) →
      splitAfterName tokens = some (.assigned found, after) →
      Comes (exit reader scope (found ++ after))
        (if check (.assigned found) = true then some after else none)) :
    Comes (exit (valueSign >>= fun _ => reader) scope tokens) (passed check tokens) := by
  by_cases sign : Ahead.punct "=" tokens = true
  · exact comes_assigned_of_sign sign empty value
  · rw [exit_valueSign, if_neg sign]
    have other (value : ArgumentValue) (differs : ∀ found, value ≠ .assigned found) :
        ¬check value = true :=
      fun passes => (only value passes).elim differs
    obtain ⟨_, _, _, _, _, split⟩ | ⟨_, split⟩ := splitAfterName_of_not_sign sign
    · rw [passed_of_not split (other _ (fun _ same => by cases same))]
      exact comes_none
    · rw [passed_of_not split (other _ (fun _ same => by cases same))]
      exact comes_none

/-! ## Values of one token -/

theorem comma_of_isPlain {tree : SyntaxTree} (plain : isPlain tree = true)
    (rest : List SyntaxTree) : Ahead.punct "," (tree :: rest) = false := by
  rw [isPlain, Bool.and_eq_true, Bool.not_eq_true'] at plain
  exact (punct_eq_isMark rfl tree rest).trans plain.2

theorem comes_token {test : SyntaxTree → Bool}
    (plain : ∀ tree, test tree = true → isPlain tree = true)
    (read : ∀ tree rest, exit reader scope (tree :: rest) =
      if test tree = true then some ⟨rest, none⟩ else none)
    (something : found ≠ []) (split : splitValue 0 (found ++ after) = (found, after)) {pass : Bool}
    (passes : pass = true ↔ ∃ tree, found = [tree] ∧ test tree = true) :
    Comes (exit reader scope (found ++ after)) (if pass = true then some after else none) := by
  obtain ⟨tree, more, rfl⟩ := List.exists_cons_of_ne_nil something
  rw [List.cons_append] at split ⊢
  rw [read]
  by_cases good : test tree = true
  · rw [if_pos good]
    rw [splitValue_plain 0 (plain tree good)] at split
    cases more with
    | nil =>
        rw [if_pos (passes.mpr ⟨tree, rfl, good⟩)]
        rfl
    | cons next more =>
        have value := List.tail_eq_of_cons_eq (Prod.mk.inj split).1
        rw [if_neg]
        · exact comes_none_of_astray
            (astray_of_splitValue (by rw [value]; exact List.cons_ne_nil _ _))
        · intro holds
          obtain ⟨other, same, -⟩ := passes.mp holds
          cases List.tail_eq_of_cons_eq same
  · rw [if_neg good, if_neg]
    · exact comes_none
    · intro holds
      obtain ⟨other, same, good'⟩ := passes.mp holds
      exact good ((List.cons.inj same).1 ▸ good')

theorem exit_token_of_not_astray {test : SyntaxTree → Bool}
    (plain : ∀ tree, test tree = true → isPlain tree = true)
    (nothing : exit reader scope [] = none)
    (read : ∀ tree rest, exit reader scope (tree :: rest) =
      if test tree = true then some ⟨rest, none⟩ else none)
    {rest : List SyntaxTree} (ends : ¬Astray rest) : exit reader scope rest = none := by
  cases rest with
  | nil => exact nothing
  | cons tree rest =>
      rw [read, if_neg]
      intro good
      have comma := comma_of_isPlain (plain tree good) rest
      obtain impossible | found := not_astray_iff.mp ends
      · cases impossible
      · rw [comma] at found
        cases found

theorem exit_token_iff {test : SyntaxTree → Bool} (nothing : exit reader scope [] = none)
    (read : ∀ tree rest, exit reader scope (tree :: rest) =
      if test tree = true then some ⟨rest, none⟩ else none) :
    exit reader scope tokens = some ⟨[], none⟩ ↔ ∃ tree, tokens = [tree] ∧ test tree = true := by
  cases tokens with
  | nil =>
      rw [nothing]
      simp
  | cons tree rest =>
      rw [read]
      cases good : test tree <;> cases rest <;> simp [good]

/-! ## String literals -/

def stringOf? : SyntaxTree → Option String
  | .token .literal text _ _ =>
      if literalClass text == .string then some (stringValue text).1 else none
  | _ => none

def isText (test : String → Bool) (tree : SyntaxTree) : Bool :=
  (stringOf? tree).any test

theorem isPlain_of_isText {test : String → Bool} {tree : SyntaxTree}
    (found : isText test tree = true) : isPlain tree = true := by
  unfold isText stringOf? at found
  split at found
  · rfl
  · cases found

theorem reads_stringLiteral_of_none {tree : SyntaxTree} (missing : stringOf? tree = none)
    (rest : List SyntaxTree) : reads stringLiteral scope ⟨tree :: rest, none⟩ = none := by
  unfold stringOf? at missing
  split at missing
  · rw [reads_stringLiteral_literal, if_neg]
    intro isString
    rw [if_pos isString] at missing
    cases missing
  · rename_i other
    rw [stringLiteral, reads_bind, reads_ahead, Option.bind_some]
    dsimp only
    split
    · rename_i same
      exact absurd (List.cons.inj same).1 (other _ _ _)
    · exact reads_expected _

theorem reads_stringLiteral_of_some (scope : Scope) {tree : SyntaxTree} {text : String}
    (found : stringOf? tree = some text) (rest : List SyntaxTree) :
    reads stringLiteral scope ⟨tree :: rest, none⟩ = some (tree, ⟨rest, none⟩) ∧
      (stringValue (tree.text?.getD "")).1 = text := by
  unfold stringOf? at found
  split at found
  · split at found
    · rename_i isString
      rw [reads_stringLiteral_literal, if_pos isString]
      exact ⟨rfl, Option.some.inj found⟩
    · cases found
  · cases found

theorem reads_textForm (tree : SyntaxTree) (rest : List SyntaxTree) :
    reads textForm scope ⟨tree :: rest, none⟩ =
      (stringOf? tree).map fun text => (text, ⟨rest, none⟩) := by
  rw [textForm, reads_bind]
  cases found : stringOf? tree with
  | none =>
      rw [reads_stringLiteral_of_none found]
      rfl
  | some text =>
      obtain ⟨read, rfl⟩ := reads_stringLiteral_of_some scope found rest
      rw [read]
      rfl

/-- An argument is assigned a text exactly if its value is a string literal alone. -/
theorem assigned_textForm_iff {argument : Argument} {text : String} :
    assigned argument textForm = .ok text ↔
      ∃ tree, argument.value = .assigned [tree] ∧ stringOf? tree = some text := by
  obtain ⟨name, value⟩ := argument
  cases value with
  | flag => simp [assigned]
  | listed body => simp [assigned]
  | assigned tokens =>
      have read : assigned ⟨name, .assigned tokens⟩ textForm = .ok text ↔
          reads textForm wholeText ⟨tokens, none⟩ = some (text, ⟨[], none⟩) := readAll_eq_ok_iff
      rw [read]
      cases tokens with
      | nil =>
          have nothing : reads textForm wholeText ⟨[], none⟩ = none := rfl
          simp [nothing]
      | cons tree rest =>
          rw [reads_textForm]
          cases found : stringOf? tree <;> cases rest <;> simp [found]

/-- A check of an assigned text passes exactly if the value is a string literal alone that
passes. -/
theorem checkText_isOk_iff {argument : Argument} (test : String → Bool)
    {further : String → Except String Unit} (tests : ∀ text, (further text).isOk = test text) :
    (assigned argument textForm >>= further).isOk = true ↔
      ∃ tree, argument.value = .assigned [tree] ∧ isText test tree = true := by
  cases given : assigned argument textForm with
  | error mistake =>
      constructor
      · intro passes
        cases passes
      · rintro ⟨tree, value, passes⟩
        cases found : stringOf? tree with
        | none =>
            rw [isText, found] at passes
            cases passes
        | some text =>
            rw [assigned_textForm_iff.mpr ⟨tree, value, found⟩] at given
            cases given
  | ok text =>
      obtain ⟨tree, value, found⟩ := assigned_textForm_iff.mp given
      have passes : isText test tree = test text := by rw [isText, found, Option.any_some]
      rw [value]
      constructor
      · intro success
        exact ⟨tree, rfl, by rw [passes, ← tests]; exact success⟩
      · rintro ⟨other, same, success⟩
        obtain rfl := (List.cons.inj (ArgumentValue.assigned.inj same)).1
        rw [passes, ← tests] at success
        exact success

/-- A reader of a text that then tests it comes out after a value that passes the test. -/
theorem comes_text (test : String → Bool) {handle : String × Nat → Reader α}
    (handled : ∀ found state, (reads (handle found) scope state).map (·.2) =
      if test found.1 = true then some state else none)
    (passes : ∀ value, check value = true ↔
      ∃ tree, value = .assigned [tree] ∧ isText test tree = true) :
    Comes (exit (valueSign >>= fun _ => stringValueOf >>= handle) scope tokens)
      (passed check tokens) := by
  have read (tree : SyntaxTree) (rest : List SyntaxTree) :
      exit (stringValueOf >>= handle) scope (tree :: rest) =
        if isText test tree = true then some ⟨rest, none⟩ else none := by
    rw [exit, stringValueOf, reads_bind, reads_bind, reads_lineAhead, Option.bind_some, reads_bind]
    cases found : stringOf? tree with
    | none =>
        rw [reads_stringLiteral_of_none found, isText, found]
        rfl
    | some text =>
        obtain ⟨literal, rfl⟩ := reads_stringLiteral_of_some scope found rest
        rw [literal, isText, found]
        exact handled _ _
  have nothing : exit (stringValueOf >>= handle) scope [] = none := by
    rw [exit, stringValueOf, reads_bind, reads_bind, reads_lineAhead, Option.bind_some, reads_bind]
    rfl
  refine comes_assigned (fun value holds => ?_)
    (fun rest ends => exit_token_of_not_astray (fun _ => isPlain_of_isText) nothing read ends)
    fun found after something split _ =>
      comes_token (fun _ => isPlain_of_isText) read something split ?_
  · obtain ⟨tree, same, -⟩ := (passes value).mp holds
    exact ⟨_, same⟩
  · rw [passes]
    simp

/-! ## Truth values -/

def isTruth : SyntaxTree → Bool
  | .token .ident text _ _ => text == "true" || text == "false"
  | _ => false

theorem isPlain_of_isTruth {tree : SyntaxTree} (found : isTruth tree = true) :
    isPlain tree = true := by
  unfold isTruth at found
  split at found
  · rfl
  · cases found

theorem exit_truthValue (tree : SyntaxTree) (rest : List SyntaxTree) :
    exit truthValue scope (tree :: rest) =
      if isTruth tree = true then some ⟨rest, none⟩ else none := by
  have word (text : String) (other : isTruth tree = false)
      (truth : text = "true" ∨ text = "false") : Ahead.word text (tree :: rest) = false := by
    unfold Ahead.word
    split
    · rename_i same
      obtain rfl := (List.cons.inj same).1
      simp only [isTruth, Bool.or_eq_false_iff] at other
      obtain rfl | rfl := truth
      · exact other.1
      · exact other.2
    · rfl
  rw [exit, truthValue, reads_bind, reads_peek, Option.bind_some, reads_ite]
  dsimp only
  cases good : isTruth tree with
  | false =>
      rw [word "true" good (.inl rfl), if_neg Bool.false_ne_true, reads_bind, reads_peek,
        Option.bind_some, reads_ite, word "false" good (.inr rfl), if_neg Bool.false_ne_true]
      rfl
  | true =>
      unfold isTruth at good
      split at good
      · rename_i text line whole
        by_cases isTrue : Ahead.word "true" (.token .ident text line whole :: rest) = true
        · rw [if_pos isTrue, reads_bind, reads_anyWord_word]
          rfl
        · have isFalse : Ahead.word "false" (.token .ident text line whole :: rest) = true :=
            (Bool.or_eq_true_iff.mp good).resolve_left isTrue
          rw [if_neg isTrue, reads_bind, reads_peek, Option.bind_some, reads_ite, if_pos isFalse,
            reads_bind, reads_anyWord_word]
          rfl
      · cases good

theorem exit_flagValue :
    exit flagValue scope tokens =
      if Ahead.punct "=" tokens = true then
        exit (valueSign >>= fun _ => truthValue) scope tokens
      else some ⟨tokens, none⟩ := by
  rw [exit, flagValue, reads_bind, reads_peek, Option.bind_some, reads_ite]
  split <;> rfl

/-- A flag is read to the end of the argument if the truth values that it may be assigned are those
that pass. -/
theorem comes_flag (alone : check .flag = true) (listed : ∀ body, ¬check (.listed body) = true)
    (assigned : ∀ found after, splitAfterName tokens = some (.assigned found, after) →
      (check (.assigned found) = true ↔ ∃ tree, found = [tree] ∧ isTruth tree = true)) :
    Comes (exit flagValue scope tokens) (passed check tokens) := by
  rw [exit_flagValue]
  split
  · rename_i sign
    exact comes_assigned_of_sign sign
      (fun rest ends =>
        exit_token_of_not_astray (fun _ => isPlain_of_isTruth) rfl exit_truthValue ends)
      fun found after something split splits =>
        comes_token (fun _ => isPlain_of_isTruth) exit_truthValue something split
          (assigned found after splits)
  · rename_i missing
    obtain ⟨body, openLine, closeLine, after, rfl, split⟩ | ⟨_, split⟩ :=
      splitAfterName_of_not_sign missing
    · rw [passed_of_not split (listed body)]
      exact comes_none_of_astray ⟨List.cons_ne_nil _ _, rfl⟩
    · rw [passed, split, Option.bind_some]
      dsimp only
      by_cases astray : Astray tokens
      · rw [if_neg (fun both => both.2 astray)]
        exact comes_none_of_astray astray
      · rw [if_pos ⟨alone, astray⟩]
        rfl

theorem checkTruth_isOk_iff {argument : Argument} :
    (checkTruth argument).isOk = true ↔
      argument.value = .flag ∨
        ∃ tree, argument.value = .assigned [tree] ∧ isTruth tree = true := by
  obtain ⟨name, value⟩ := argument
  cases value with
  | flag => simp [checkTruth, Except.isOk, Except.toBool]
  | listed body =>
      simp [checkTruth, checkAssigned, assigned, Except.map, Except.isOk, Except.toBool]
  | assigned tokens =>
      have parsed : (checkTruth ⟨name, .assigned tokens⟩).isOk =
          (readAll truthValue tokens).isOk := by
        show ((readAll truthValue tokens).map _).isOk = _
        cases readAll truthValue tokens <;> rfl
      rw [parsed, readAll_isOk_iff, exit_token_iff rfl exit_truthValue]
      simp

/-! ## Values that are read again -/

theorem forms_refuse {depth : Nat} (deep : 6 ≤ depth) {rest : List SyntaxTree}
    (ends : ¬Astray rest) :
    exit (typeForm (nonterminal depth)) scope rest = none ∧
      exit (exprForm (nonterminal depth)) scope rest = none ∧
        exit (pathForm (nonterminal depth)) scope rest = none := by
  obtain ⟨depth, rfl⟩ := Nat.exists_eq_add_of_le' deep
  obtain rfl | ⟨line, whole, rest, rfl⟩ | ⟨line, whole, rest, rfl⟩ := end_cases ends
  · exact ⟨rfl, rfl, rfl⟩
  · exact ⟨rfl, rfl, rfl⟩
  · exact ⟨rfl, rfl, rfl⟩

section Again

variable {form : Reader β} {value : β} [replays : ∀ room more, Replays room more 0 0 form form]

theorem not_astray_nil : ¬Astray [] :=
  fun astray => astray.1 rfl

/-- A value that is read to its end is read alike in front of what ends the argument. -/
theorem reads_of_readAll (scope : Scope) (ends : ¬Astray after)
    (read : readAll form found = .ok value) :
    reads form scope ⟨found ++ after, none⟩ = some (value, ⟨after, none⟩) := by
  have read := readAll_eq_ok_iff.mp read
  rw [← List.append_nil found] at read
  have behind : Behind 0 [] after :=
    ⟨[], [], after, rfl, rfl, not_astray_nil, ends, fun deep => absurd rfl deep⟩
  exact (replays _ _).again read (Nat.lt_succ_self _) behind (Nat.lt_succ_self _)

/-- A value that is read in front of what ends the argument is read to its end alike. -/
theorem readAll_of_reads (ends : ¬Astray after)
    (read : reads form scope ⟨found ++ after, none⟩ = some (value, ⟨after, none⟩)) :
    readAll form found = .ok value := by
  have behind : Behind 0 after [] :=
    ⟨[], after, [], rfl, rfl, ends, not_astray_nil, fun deep => absurd rfl deep⟩
  refine readAll_eq_ok_iff.mpr ?_
  rw [← List.append_nil found]
  exact (replays _ _).again read (Nat.lt_succ_self _) behind (Nat.lt_succ_self _)

end Again

theorem splitValue_of_ends (ends : ¬Astray after) : splitValue 0 after = ([], after) := by
  obtain rfl | comma := not_astray_iff.mp ends
  · rfl
  · cases after with
    | nil => rfl
    | cons tree rest =>
        rw [splitValue, comma]
        rfl

/-- Tokens that the split takes whole are the value, if an argument may end behind them. -/
theorem eq_of_splitValue {front rest : List SyntaxTree}
    (split : splitValue 0 (found ++ after) = (found, after)) (same : found ++ after = front ++ rest)
    (taken : splitValue 0 (front ++ rest) =
      (front ++ (splitValue 0 rest).1, (splitValue 0 rest).2)) (ends : ¬Astray rest) :
    rest = after := by
  rw [← same, split, splitValue_of_ends ends] at taken
  exact (congrArg Prod.snd taken).symm

theorem checkAssigned_isOk (argument : Argument) (form : Reader β) :
    (checkAssigned argument form).isOk =
      match argument.value with
      | .assigned tokens => (readAll form tokens).isOk
      | _ => false := by
  obtain ⟨name, value⟩ := argument
  cases value with
  | flag => rfl
  | listed body => rfl
  | assigned tokens =>
      show ((readAll form tokens).map _).isOk = (readAll form tokens).isOk
      cases readAll form tokens <;> rfl

/-- Whether what makes a value that passes a test is read alike by itself and where it stands. -/
structure Portable (scope : Scope) (form : Reader β) (test : β → Bool)
    (found after : List SyntaxTree) : Prop where
  fits : ∀ {value}, readAll form found = .ok value → test value = true
  again : ∀ {value}, readAll form found = .ok value →
    reads form scope ⟨found ++ after, none⟩ = some (value, ⟨after, none⟩)
  back : ∀ {value rest}, reads form scope ⟨found ++ after, none⟩ = some (value, ⟨rest, none⟩) →
    test value = true → ¬Astray rest → (readAll form found).isOk = true

theorem portable_of_replays {form : Reader β} {test : β → Bool}
    [replays : ∀ room more, Replays room more 0 0 form form]
    (split : splitValue 0 (found ++ after) = (found, after)) (ends : ¬Astray after)
    (noArrow : hasMark "->" found = false)
    (fits : ∀ value, readAll form found = .ok value → test value = true) :
    Portable scope form test found after where
  fits read := fits _ read
  again read := reads_of_readAll scope ends read
  back read _ stops := by
    obtain ⟨front, same, spans⟩ := (replays _ 0).front read (Nat.lt_succ_self _)
    have taken := (spans 0 _).resolve_left (by
      rw [Nat.zero_add, ← same, split, noArrow]
      exact Bool.false_ne_true)
    rw [Nat.zero_add] at taken
    obtain rfl := eq_of_splitValue split same taken stops
    have whole : readAll form found = .ok _ := readAll_of_reads stops read
    rw [whole]
    rfl

/-- A reader of a form that then tests what it has read comes out after an argument whose value is
read alike by itself and where it stands. -/
theorem comes_whole {form : Reader β} {name : String} (test : β → Bool)
    (through : ∀ tokens, exit reader scope tokens =
      (reads form scope ⟨tokens, none⟩).bind fun step =>
        if test step.1 = true then some step.2 else none)
    (refuses : ∀ rest, ¬Astray rest → exit form scope rest = none)
    (settled : ∀ found after, splitAfterName tokens = some (.assigned found, after) →
      splitValue 0 (found ++ after) = (found, after) → ¬Astray after →
        Portable scope form test found after) :
    Comes (exit (valueSign >>= fun _ => reader) scope tokens)
      (passed (fun value => (checkAssigned ⟨name, value⟩ form).isOk) tokens) := by
  refine comes_assigned (fun value passes => ?only) (fun rest ends => ?empty)
    fun found after something split splits => ?value
  case only =>
    rw [checkAssigned_isOk] at passes
    cases value with
    | assigned found => exact ⟨found, rfl⟩
    | flag => cases passes
    | listed body => cases passes
  case empty =>
    rw [through, Option.map_eq_none_iff.mp (refuses rest ends), Option.bind_none]
  case value =>
    have ends : ¬Astray after := by
      have := not_astray_splitValue (found ++ after)
      rwa [split] at this
    have portable := settled found after splits split ends
    rw [checkAssigned_isOk, through]
    dsimp only
    split
    · rename_i good
      obtain ⟨value, read⟩ := Outcome.exists_of_isOk good
      rw [portable.again read, Option.bind_some, if_pos (portable.fits read)]
      rfl
    · rename_i bad
      intro state out
      obtain ⟨⟨value, last⟩, read, tested⟩ := Option.bind_eq_some_iff.mp out
      obtain ⟨fits, same⟩ := Option.ite_none_right_eq_some.mp tested
      obtain rfl : last = state := Option.some.inj same
      by_contra found
      obtain ⟨same, ends⟩ := exists_of_not_lost found
      rw [same] at read
      exact bad (portable.back read fits ends)

theorem exit_tested {form : Reader β} {rest : Nat → β → Reader α} (good : β → Bool)
    (tested : ∀ line value state, (reads (rest line value) scope state).map (·.2) =
      if good value = true then some state else none) :
    exit (lineAhead >>= fun line => form >>= rest line) scope tokens =
      (reads form scope ⟨tokens, none⟩).bind fun step =>
        if good step.1 = true then some step.2 else none := by
  rw [exit, reads_bind, reads_lineAhead, Option.bind_some, reads_bind]
  cases reads form scope ⟨tokens, none⟩ with
  | none => rfl
  | some step => exact tested _ _ _

end Values

/-! ## One argument of each form -/

section Forms

variable {scope : Scope} {tokens : List SyntaxTree} (nested : Nested)

def accepts (form : Form) (value : ArgumentValue) : Bool :=
  (checkForm nested form ⟨"", value⟩).isOk

theorem checkForm_isOk (form : Form) (argument : Argument) :
    (checkForm nested form argument).isOk = accepts nested form argument.value := by
  obtain ⟨name, value⟩ := argument
  cases form <;> cases value <;> rfl

/-- A truth value that is assigned to a flag is the one value on which the two disagree. -/
theorem comes_skim_flag
    (settled : ∀ found after, splitAfterName tokens = some (.assigned found, after) →
      ¬∃ tree, found = [tree] ∧ isTruth tree = true) :
    Comes (exit (skim nested .flag) scope tokens) (passed (accepts nested .flag) tokens) := by
  rw [skim, exit_then_pure]
  refine comes_flag rfl (fun body passes => by cases passes) fun found after split =>
    iff_of_false (fun passes => ?_) (settled found after split)
  cases passes

theorem comes_skim_truth :
    Comes (exit (skim nested .truth) scope tokens) (passed (accepts nested .truth) tokens) := by
  rw [skim, exit_then_pure]
  refine comes_flag rfl (fun body passes => by cases passes) fun found after split => ?_
  rw [accepts, checkForm, checkTruth_isOk_iff]
  simp

theorem comes_skim_verb :
    Comes (exit (skim nested .verb) scope tokens) (passed (accepts nested .verb) tokens) := by
  rw [skim, exit_then_pure, verbValue]
  refine comes_text (fun text => (Verb.ofText? text).isSome) (fun found state => ?_)
    fun value => checkText_isOk_iff _ fun text => ?_
  · dsimp only
    cases Verb.ofText? found.1 <;> rfl
  · cases Verb.ofText? text <;> rfl

theorem comes_skim_method :
    Comes (exit (skim nested .method) scope tokens) (passed (accepts nested .method) tokens) := by
  rw [skim]
  refine comes_text isName (fun found state => ?_)
    fun value => checkText_isOk_iff _ fun text => ?_
  · dsimp only
    cases isName found.1 <;> rfl
  · cases isName text <;> rfl

theorem comes_skim_text :
    Comes (exit (skim nested .text) scope tokens) (passed (accepts nested .text) tokens) := by
  have checked (value : ArgumentValue) : accepts nested .text value =
      (assigned ⟨"", value⟩ textForm >>= fun _ => .ok ()).isOk := by
    rw [accepts, checkForm, checkAssigned]
    cases assigned ⟨"", value⟩ textForm <;> rfl
  rw [skim]
  refine comes_text (fun _ => true) (fun found state => rfl) fun value => ?_
  rw [checked]
  exact checkText_isOk_iff _ fun text => rfl

theorem comes_skim_unknown :
    Comes (exit (skim nested .unknown) scope tokens) (passed (accepts nested .unknown) tokens) := by
  have nothing : passed (accepts nested .unknown) tokens = none := by
    cases split : splitAfterName tokens with
    | none => rw [passed, split, Option.bind_none]
    | some found => exact passed_of_not split Bool.false_ne_true
  rw [nothing]
  exact comes_none

end Forms

end Wiring.Expansion
