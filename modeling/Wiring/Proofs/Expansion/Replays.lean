import Wiring.Proofs.Expansion.Spans
import Wiring.Proofs.Grammar.Climbing

/-!
# Readers that read again

What stands behind a value does not matter to the reader of it, as long as the value ends there: the
value is read again wherever it stands in front of an end. See `Replays`.
-/

set_option autoImplicit false

namespace Wiring.Expansion

open Wiring.Grammar
open Wiring.Grammar.Reader

/-- What a reader reads another one reads again in front of other tokens, if both begin alike up to
where an argument may end, and what is read keeps to its angle brackets. The numbers bound the
tokens that the one and the other have. -/
class Replays {α : Type} (room more enter : Nat) (leave : outParam Nat) (reader other : Reader α) :
    Prop where
  clean : ∀ {scope before value after}, reads reader scope before = some (value, ⟨after, none⟩) →
    before.leftOver = none
  front : ∀ {scope tokens value after},
    reads reader scope ⟨tokens, none⟩ = some (value, ⟨after, none⟩) → tokens.length < room →
      ∃ front, tokens = front ++ after ∧ Spans enter leave front
  again : ∀ {scope elsewhere front value after behind},
    reads reader scope ⟨front ++ after, none⟩ = some (value, ⟨after, none⟩) →
      (front ++ after).length < room → Behind leave after behind →
        (front ++ behind).length < more →
          reads other elsewhere ⟨front ++ behind, none⟩ = some (value, ⟨behind, none⟩)

section Steps

variable {α β : Type} {room more enter inside leave : Nat}

/-- A reader and what follows it. What the first takes is no longer there for the second. -/
theorem Replays.bind_taking (taken : Nat) {reader other : Reader α} {next after : α → Reader β}
    (takes : ∀ {scope tokens value rest},
      reads reader scope ⟨tokens, none⟩ = some (value, ⟨rest, none⟩) →
        tokens.length < room + taken → rest.length + taken ≤ tokens.length)
    (first : Replays (room + taken) (more + taken) enter inside reader other)
    (second : ∀ value, Replays room more inside leave (next value) (after value)) :
    Replays (room + taken) (more + taken) enter leave (reader >>= next) (other >>= after) where
  clean read := by
    obtain ⟨value, ⟨rest, leftOver⟩, begun, later⟩ := exists_of_reads_bind read
    obtain rfl : leftOver = none := (second value).clean later
    exact first.clean begun
  front {scope tokens value rest} read enough := by
    obtain ⟨between, ⟨middle, leftOver⟩, begun, later⟩ := exists_of_reads_bind read
    obtain rfl : leftOver = none := (second between).clean later
    have fewer := takes begun enough
    obtain ⟨head, rfl, spans⟩ := first.front begun enough
    obtain ⟨tail, rfl, further⟩ := (second between).front later (by omega)
    exact ⟨head ++ tail, (List.append_assoc ..).symm, spans.append further⟩
  again {scope elsewhere front value rest behind} read enough alike fits := by
    obtain ⟨between, ⟨middle, leftOver⟩, begun, later⟩ := exists_of_reads_bind read
    obtain rfl : leftOver = none := (second between).clean later
    have fewer := takes begun enough
    obtain ⟨head, same, -⟩ := first.front begun enough
    rw [same] at begun enough fewer
    obtain ⟨tail, rfl, further⟩ := (second between).front later (by omega)
    rw [← List.append_assoc] at same
    obtain rfl := List.append_cancel_right same
    -- What closes an angle bracket is among the tokens in common.
    have closer : inside ≠ 0 → leave ≠ 0 ∨ tail ≠ [] := by
      intro deep
      by_cases out : leave = 0
      · subst out
        obtain ⟨less, rfl⟩ := Nat.exists_eq_succ_of_ne_zero deep
        exact .inr further.ne_nil
      · exact .inl out
    rw [List.append_assoc] at fits ⊢
    rw [reads_bind, first.again begun enough (alike.append _ closer) fits, Option.bind_some]
    refine (second between).again later (by omega) alike ?_
    simp only [List.length_append] at fits fewer ⊢
    omega

theorem Replays.bind {reader other : Reader α} {next after : α → Reader β}
    (first : Replays room more enter inside reader other)
    (second : ∀ value, Replays room more inside leave (next value) (after value)) :
    Replays room more enter leave (reader >>= next) (other >>= after) := by
  refine .bind_taking 0 (fun read enough => ?_) first second
  obtain ⟨head, rfl, -⟩ := first.front read enough
  rw [List.length_append]
  exact Nat.le_add_left ..

theorem Replays.bind_of_shortens {reader other : Reader α} {next after : α → Reader β}
    (shortens : Shortens reader)
    (first : Replays (room + 1) (more + 1) enter inside reader other)
    (second : ∀ value, Replays room more inside leave (next value) (after value)) :
    Replays (room + 1) (more + 1) enter leave (reader >>= next) (other >>= after) :=
  .bind_taking 1 (fun read _ => shortens.shorter read) first second

instance replays_bind (reader other : Reader α) (next after : α → Reader β)
    [first : Replays room more enter inside reader other]
    [second : ∀ value, Replays room more inside leave (next value) (after value)] :
    Replays room more enter leave (reader >>= next) (other >>= after) :=
  first.bind second

theorem Replays.ite {condition : Prop} [Decidable condition] {left left' right right' : Reader α}
    (here : Replays room more enter leave left left')
    (there : Replays room more enter leave right right') :
    Replays room more enter leave (if condition then left else right)
      (if condition then left' else right') := by
  split
  · exact here
  · exact there

instance replays_ite (condition : Prop) [Decidable condition] (left left' right right' : Reader α)
    [here : Replays room more enter leave left left']
    [there : Replays room more enter leave right right'] :
    Replays room more enter leave (if condition then left else right)
      (if condition then left' else right') :=
  here.ite there

/-- A reader that refuses. -/
theorem Replays.of_none {reader other : Reader α}
    (refuses : ∀ scope state, reads reader scope state = none) :
    Replays room more enter leave reader other where
  clean {scope before value after} read := by
    rw [refuses] at read
    cases read
  front {scope tokens value after} read := by
    rw [refuses] at read
    cases read
  again {scope elsewhere front value after behind} read := by
    rw [refuses] at read
    cases read

instance replays_expected (alternatives : List String) (other : Reader α) :
    Replays room more enter enter (expected alternatives) other :=
  .of_none fun _ _ => reads_expected _

instance replays_refuseAt (line : Nat) (cause : Cause) (other : Reader α) :
    Replays room more enter enter (refuseAt line cause) other :=
  .of_none fun _ _ => rfl

/-- A reader that gives what it finds out about the tokens ahead, and stays where it is. -/
theorem Replays.of_same {reader : Reader α} (value : List SyntaxTree → α)
    (finds : ∀ scope state, reads reader scope state = some (value state.rest, state))
    (same : ∀ {left right}, Behind enter left right → value left = value right) :
    Replays room more enter enter reader reader where
  clean {scope before result after} read := by
    rw [finds] at read
    obtain ⟨-, rfl⟩ := Prod.mk.inj (Option.some.inj read)
    rfl
  front {scope tokens result after} read _ := by
    rw [finds] at read
    obtain ⟨-, same⟩ := Prod.mk.inj (Option.some.inj read)
    obtain rfl := congrArg ReaderState.rest same
    exact ⟨[], rfl, .nil _⟩
  again {scope elsewhere front result after behind} read _ alike _ := by
    rw [finds] at read
    obtain ⟨rfl, stays⟩ := Prod.mk.inj (Option.some.inj read)
    have stays := congrArg ReaderState.rest stays
    obtain rfl : front = [] := by simpa using stays
    rw [finds, List.nil_append, List.nil_append, same alike]

instance replays_pure (value : α) :
    Replays room more enter enter (pure value : Reader α) (pure value) :=
  .of_same (fun _ => value) (fun _ _ => rfl) fun _ => rfl

/-- A test that tells nothing about what stands behind the end of an argument. -/
class Unswayed (test : List SyntaxTree → Bool) : Prop where
  same : ∀ {left right}, Behind 0 left right → test left = test right

instance replays_peek (test : List SyntaxTree → Bool) [unswayed : Unswayed test] :
    Replays room more enter enter (peek test) (peek test) :=
  .of_same test (fun _ _ => rfl) fun alike => unswayed.same alike.outside

instance replays_peek_comma :
    Replays room more (enter + 1) (enter + 1) (peek (Ahead.punct ","))
      (peek (Ahead.punct ",")) := by
  refine .of_same (Ahead.punct ",") (fun _ _ => rfl) fun alike => ?_
  obtain ⟨-, -, impossible⟩ | ⟨tree, left, right, rfl, rfl, -⟩ := alike.cases
  · cases impossible
  · rw [punct_eq_isMark rfl, punct_eq_isMark rfl]

/-- A line that only a refusal names. -/
theorem Replays.of_line {next after : Nat → Reader α}
    (named : ∀ line other, Replays room more enter leave (next line) (after other)) :
    Replays room more enter leave (lineAhead >>= next) (lineAhead >>= after) where
  clean read := by
    rw [reads_bind, reads_lineAhead, Option.bind_some] at read
    exact (named _ 0).clean read
  front read := by
    rw [reads_bind, reads_lineAhead, Option.bind_some] at read
    exact (named _ 0).front read
  again read enough alike fits := by
    rw [reads_bind, reads_lineAhead, Option.bind_some] at read ⊢
    exact (named _ _).again read enough alike fits

instance replays_lineAhead (next after : Nat → Reader α)
    [named : ∀ line other, Replays room more enter leave (next line) (after other)] :
    Replays room more enter leave (lineAhead >>= next) (lineAhead >>= after) :=
  .of_line named

/-- A reader that looks at the tokens ahead. -/
theorem Replays.of_ahead {next after : List SyntaxTree → Reader α}
    (replays : ∀ {tokens tokens'}, Behind 0 tokens tokens' →
      Replays room more enter leave (next tokens) (after tokens')) :
    Replays room more enter leave (ahead >>= next) (ahead >>= after) where
  clean {scope before value rest} read := by
    have alike : Behind 0 before.rest before.rest :=
      ⟨before.rest, [], [], by simp, by simp, fun astray => astray.1 rfl,
        fun astray => astray.1 rfl, by simp⟩
    exact (replays alike).clean read
  front {scope tokens value rest} read := by
    have alike : Behind 0 tokens tokens :=
      ⟨tokens, [], [], by simp, by simp, fun astray => astray.1 rfl, fun astray => astray.1 rfl,
        by simp⟩
    exact (replays alike).front read
  again {scope elsewhere front value rest behind} read enough alike fits :=
    (replays (alike.outside.append _ (by simp))).again read enough alike fits

theorem Replays.of_rounds {σ : Type} {loop : Nat → σ → Reader α}
    (stops : ∀ done, ∃ value, loop 0 done = pure value)
    (step : ∀ fuel fuel',
      (∀ done, Replays fuel fuel' enter leave (loop fuel done) (loop fuel' done)) →
        ∀ done, Replays (fuel + 1) (fuel' + 1) enter leave (loop (fuel + 1) done)
          (loop (fuel' + 1) done)) (fuel fuel' : Nat) (done : σ) :
    Replays fuel fuel' enter leave (loop fuel done) (loop fuel' done) := by
  induction fuel generalizing fuel' done with
  | zero =>
      refine ⟨fun read => ?_, fun _ impossible => absurd impossible (Nat.not_lt_zero _),
        fun _ impossible => absurd impossible (Nat.not_lt_zero _)⟩
      obtain ⟨value, ends⟩ := stops done
      rw [ends] at read
      obtain ⟨-, rfl⟩ := Prod.mk.inj (Option.some.inj read)
      rfl
  | succ fuel ih =>
      cases fuel' with
      | zero =>
          have one := step fuel 0 (ih 0) done
          exact ⟨one.clean, one.front, fun _ _ _ less => absurd less (Nat.not_lt_zero _)⟩
      | succ fuel' => exact step fuel fuel' (ih fuel') done

/-- A loop whose fuel exceeds the number of tokens. -/
theorem Replays.of_loop {σ : Type} {loop : Nat → σ → Reader α} {start : σ}
    (stops : ∀ done, ∃ value, loop 0 done = pure value)
    (step : ∀ fuel fuel',
      (∀ done, Replays fuel fuel' enter leave (loop fuel done) (loop fuel' done)) →
        ∀ done, Replays (fuel + 1) (fuel' + 1) enter leave (loop (fuel + 1) done)
          (loop (fuel' + 1) done)) :
    Replays room more enter leave (ahead >>= fun tokens => loop (tokens.length + 1) start)
      (ahead >>= fun tokens => loop (tokens.length + 1) start) where
  clean read := (Replays.of_rounds stops step _ 0 start).clean read
  front read _ := (Replays.of_rounds stops step _ 0 start).front read (Nat.lt_succ_self _)
  again read _ alike _ := (Replays.of_rounds stops step _ _ start).again read (Nat.lt_succ_self _)
    alike (Nat.lt_succ_self _)

/-! ## Tokens -/

/-- A reader that takes tokens, whatever stands behind them. -/
theorem Replays.of_tokens {reader : Reader α}
    (takes : ∀ {scope tokens leftOver value after},
      reads reader scope ⟨tokens, leftOver⟩ = some (value, after) →
        ∃ front rest, tokens = front ++ rest ∧ after = ⟨rest, leftOver⟩ ∧ Spans enter leave front ∧
          ∀ elsewhere behind, reads reader elsewhere ⟨front ++ behind, leftOver⟩ =
            some (value, ⟨behind, leftOver⟩)) :
    Replays room more enter leave reader reader where
  clean {scope before value after} read := by
    obtain ⟨front, rest, -, same, -⟩ := takes read
    exact (congrArg ReaderState.leftOver same).symm
  front {scope tokens value after} read _ := by
    obtain ⟨front, rest, rfl, same, spans, -⟩ := takes read
    obtain rfl := congrArg ReaderState.rest same
    exact ⟨front, rfl, spans⟩
  again {scope elsewhere front value after behind} read _ _ _ := by
    obtain ⟨taken, rest, whole, same, -, again⟩ := takes read
    obtain rfl := congrArg ReaderState.rest same
    obtain rfl := List.append_cancel_right whole
    exact again elsewhere behind

/-- A reader that takes one token, whatever stands behind it. -/
theorem Replays.of_token {reader : Reader α} {rest : List SyntaxTree → Reader α}
    (looks : reader = (ahead >>= rest))
    (takes : ∀ {scope tokens leftOver value after},
      reads (rest tokens) scope ⟨tokens, leftOver⟩ = some (value, after) →
        ∃ tree further, tokens = tree :: further ∧ after = ⟨further, leftOver⟩ ∧
          isPlain tree = true ∧ ∀ elsewhere behind,
            reads (rest (tree :: behind)) elsewhere ⟨tree :: behind, leftOver⟩ =
              some (value, ⟨behind, leftOver⟩)) :
    Replays room more enter enter reader reader := by
  subst looks
  refine .of_tokens fun read => ?_
  obtain ⟨tree, further, rfl, rfl, plain, again⟩ := takes read
  exact ⟨[tree], further, rfl, rfl,
    .plain _ fun other found => List.mem_singleton.mp found ▸ plain, again⟩

instance replays_keyword (text : String) :
    Replays room more enter enter (keyword text) (keyword text) := by
  refine .of_token rfl fun {scope tokens leftOver value after} read => ?_
  split at read
  · rename_i found
    match tokens, found, read with
    | .token .ident other line whole :: rest, found, read =>
        obtain ⟨rfl, rfl⟩ := Prod.mk.inj (Option.some.inj read)
        refine ⟨_, _, rfl, rfl, rfl, fun elsewhere behind => ?_⟩
        have again : Ahead.word text (.token .ident other line whole :: behind) = true := found
        rw [dif_pos again]
        rfl
  · rw [reads_expected] at read
    cases read

instance replays_anyWord : Replays room more enter enter anyWord anyWord := by
  refine .of_token rfl fun {scope tokens leftOver value after} read => ?_
  split at read
  · obtain ⟨rfl, rfl⟩ := Prod.mk.inj (Option.some.inj read)
    exact ⟨_, _, rfl, rfl, rfl, fun _ _ => rfl⟩
  · rw [reads_expected] at read
    cases read

instance replays_name : Replays room more enter enter name name := by
  refine .of_token rfl fun {scope tokens leftOver value after} read => ?_
  split at read
  · rename_i text line whole rest
    rw [reads_ite, reads_refuse] at read
    split at read
    · cases read
    · rename_i other
      obtain ⟨rfl, rfl⟩ := Prod.mk.inj (Option.some.inj read)
      refine ⟨_, _, rfl, rfl, rfl, fun elsewhere behind => ?_⟩
      dsimp only
      rw [if_neg other]
      rfl
  · rw [reads_expected] at read
    cases read

instance replays_lifetime : Replays room more enter enter lifetime lifetime := by
  refine .of_token rfl fun {scope tokens leftOver value after} read => ?_
  split at read
  · obtain ⟨rfl, rfl⟩ := Prod.mk.inj (Option.some.inj read)
    exact ⟨_, _, rfl, rfl, rfl, fun _ _ => rfl⟩
  · rw [reads_expected] at read
    cases read

instance replays_stringLiteral : Replays room more enter enter stringLiteral stringLiteral := by
  refine .of_token rfl fun {scope tokens leftOver value after} read => ?_
  split at read
  · rename_i text line whole rest
    rw [reads_ite, reads_expected] at read
    split at read
    · rename_i isString
      obtain ⟨rfl, rfl⟩ := Prod.mk.inj (Option.some.inj read)
      refine ⟨_, _, rfl, rfl, rfl, fun elsewhere behind => ?_⟩
      dsimp only
      rw [if_pos isString]
      rfl
    · cases read
  · rw [reads_expected] at read
    cases read

instance replays_rawGroup : Replays room more enter enter rawGroup rawGroup := by
  refine .of_token rfl fun {scope tokens leftOver value after} read => ?_
  split at read
  · obtain ⟨rfl, rfl⟩ := Prod.mk.inj (Option.some.inj read)
    exact ⟨_, _, rfl, rfl, rfl, fun _ _ => rfl⟩
  · rw [reads_expected] at read
    cases read

/-- A literal is made of plain tokens, whatever stands behind them. -/
theorem reads_literal_front {scope : Scope} {tokens : List SyntaxTree}
    {leftOver : Option LeftOver} {value : SyntaxTree} {after : ReaderState}
    (read : reads literal scope ⟨tokens, leftOver⟩ = some (value, after)) :
    ∃ front rest, tokens = front ++ rest ∧ after = ⟨rest, leftOver⟩ ∧
      (∀ tree ∈ front, isPlain tree = true) ∧
        ∀ elsewhere behind, reads literal elsewhere ⟨front ++ behind, leftOver⟩ =
          some (value, ⟨behind, leftOver⟩) := by
  rw [literal, reads_bind, reads_ahead, Option.bind_some] at read
  dsimp only at read
  split at read
  · obtain ⟨rfl, rfl⟩ := Prod.mk.inj (Option.some.inj read)
    exact ⟨[_], _, rfl, rfl, List.forall_mem_singleton.mpr rfl, fun _ _ => rfl⟩
  · rw [reads_ite, reads_expected] at read
    split at read
    · rename_i isTruth
      obtain ⟨rfl, rfl⟩ := Prod.mk.inj (Option.some.inj read)
      refine ⟨[_], _, rfl, rfl, List.forall_mem_singleton.mpr rfl, fun elsewhere behind => ?_⟩
      rw [literal, reads_bind, reads_ahead, Option.bind_some]
      dsimp only [List.singleton_append]
      rw [if_pos isTruth]
      rfl
    · cases read
  · rename_i kind line whole text textLine textWhole rest notLiteral notWord
    rw [reads_ite, reads_expected] at read
    split at read
    · rename_i isNumber
      obtain ⟨rfl, rfl⟩ := Prod.mk.inj (Option.some.inj read)
      have sign : isPlain (.token kind "-" line whole) = true := by cases kind <;> rfl
      refine ⟨[_, _], _, rfl, rfl,
        List.forall_mem_cons.mpr ⟨sign, List.forall_mem_singleton.mpr rfl⟩,
        fun elsewhere behind => ?_⟩
      rw [literal, reads_bind, reads_ahead, Option.bind_some]
      cases kind with
      | literal => exact (notLiteral rfl).elim
      | ident => exact (notWord rfl).elim
      | lifetime | punct | joined =>
          simp only [List.cons_append, List.nil_append, isNumber, if_pos]
          rfl
    · cases read
  · rw [reads_expected] at read
    cases read

instance replays_literal : Replays room more enter enter literal literal := by
  refine .of_tokens fun read => ?_
  obtain ⟨front, rest, same, ends, plain, again⟩ := reads_literal_front read
  exact ⟨front, rest, same, ends, .plain _ plain, again⟩

instance replays_group (delimiter : Delimiter) (body : Reader α) :
    Replays room more enter enter (group delimiter body) (group delimiter body) where
  clean {scope before value after} read := by
    cases noted : before.leftOver with
    | none => rfl
    | some left =>
        have still := (onward_group delimiter body).past read |>.noted (by rw [noted]; rfl)
        cases still
  front {scope tokens value after} read _ := by
    cases found : Ahead.group delimiter tokens with
    | true =>
        obtain ⟨inner, openLine, closeLine, rest, rfl⟩ := exists_of_group found
        rw [reads_group, Option.map_eq_some_iff] at read
        obtain ⟨step, -, same⟩ := read
        obtain ⟨-, same⟩ := Prod.mk.inj same
        obtain rfl := congrArg ReaderState.rest same
        exact ⟨[_], rfl, .plain _ fun other found => List.mem_singleton.mp found ▸ rfl⟩
    | false =>
        rw [reads_group_of_not body found] at read
        cases read
  again {scope elsewhere front value after behind} read _ _ _ := by
    cases found : Ahead.group delimiter (front ++ after) with
    | true =>
        obtain ⟨inner, openLine, closeLine, rest, whole⟩ := exists_of_group found
        rw [whole, reads_group, Option.map_eq_some_iff] at read
        obtain ⟨step, body, same⟩ := read
        obtain ⟨rfl, ends⟩ := Prod.mk.inj same
        obtain rfl := congrArg ReaderState.rest ends
        obtain rfl : front = [_] := List.append_cancel_right whole
        have noted := congrArg ReaderState.leftOver ends
        rw [List.singleton_append, reads_group, body, Option.map_some]
        exact congrArg (fun left => some (_, (⟨behind, left⟩ : ReaderState))) noted
    | false =>
        rw [reads_group_of_not body found] at read
        cases read

instance replays_groupOf (delimiter : Delimiter) (body : Reader (List SyntaxTree)) :
    Replays room more enter enter (groupOf delimiter body) (groupOf delimiter body) := by
  unfold groupOf
  infer_instance

/-! ## Punctuation -/

/-- Punctuation without a comma. -/
class CommaFree (text : String) : Prop where
  free : ∀ c ∈ text.toList, c ≠ ','

/-- Punctuation of some characters of which none is a comma or an angle bracket. -/
class PlainMark (text : String) : Prop where
  plain : text.toList ≠ [] ∧ ∀ c ∈ text.toList, c ≠ ',' ∧ c ≠ '<' ∧ c ≠ '>'

instance (text : String) [mark : PlainMark text] : CommaFree text :=
  ⟨fun c listed => (mark.plain.2 c listed).1⟩

theorem punctChars_ends {c : Char} {more : List Char} {tokens : List SyntaxTree}
    (ends : ¬Astray tokens) (other : c ≠ ',') : Ahead.punctChars (c :: more) tokens = false := by
  have differs : ("," == String.singleton c) = false := by
    rw [beq_eq_false_iff_ne, show "," = String.singleton ',' from rfl]
    exact fun same => other (String.singleton_inj.mp same).symm
  obtain rfl | ⟨line, whole, rest, rfl⟩ | ⟨line, whole, rest, rfl⟩ := end_cases ends
  · cases more <;> rfl
  · cases more with
    | nil => exact differs
    | cons => rfl
  · cases more with
    | nil => exact differs
    | cons => exact (congrArg (· && _) differs).trans (Bool.false_and _)

theorem punctChars_alike {chars : List Char} {left right : List SyntaxTree}
    (free : ∀ c ∈ chars, c ≠ ',') (alike : Behind 0 left right) :
    Ahead.punctChars chars left = Ahead.punctChars chars right := by
  induction chars generalizing left right with
  | nil => rw [Ahead.punctChars, Ahead.punctChars]
  | cons c more ih =>
      obtain ⟨ends, ends', -⟩ | ⟨tree, left, right, rfl, rfl, behind⟩ := alike.cases
      · have other := free c List.mem_cons_self
        rw [punctChars_ends ends other, punctChars_ends ends' other]
      · have later := ih (fun c found => free c (List.mem_cons_of_mem _ found)) behind
        cases more with
        | nil => cases tree <;> rfl
        | cons next more =>
            cases tree with
            | token kind text line whole =>
                cases kind with
                | joined => exact congrArg (_ && ·) later
                | ident | lifetime | punct | literal => rfl
            | group | node => rfl

instance unswayed_punct (text : String) [comma : CommaFree text] : Unswayed (Ahead.punct text) where
  same alike := punctChars_alike comma.free alike

/-- The tokens that punctuation is made of stand for themselves. -/
theorem exists_of_punctChars {chars : List Char} {tokens : List SyntaxTree}
    (found : Ahead.punctChars chars tokens = true) :
    ∃ front rest, tokens = front ++ rest ∧ front.length = chars.length ∧
      (∀ tree ∈ front, ∃ c ∈ chars, isMark c.toString tree = true) ∧
        ∀ behind, Ahead.punctChars chars (front ++ behind) = true := by
  fun_induction Ahead.punctChars chars tokens with
  | case1 tokens => exact ⟨[], tokens, rfl, rfl, by simp, fun _ => rfl⟩
  | case2 c kind text line whole rest =>
      refine ⟨[.token kind text line whole], rest, rfl, rfl, fun tree among => ?_, fun _ => found⟩
      obtain rfl := List.mem_singleton.mp among
      refine ⟨c, List.mem_cons_self, ?_⟩
      rw [Bool.and_eq_true, Bool.or_eq_true, beq_iff_eq, beq_iff_eq] at found
      obtain ⟨rfl | rfl, same⟩ := found <;> exact same
  | case3 c more text line whole rest _ ih =>
      rw [Bool.and_eq_true] at found
      obtain ⟨front, rest, rfl, length, marks, again⟩ := ih found.2
      refine ⟨.token .joined text line whole :: front, rest, rfl, by simp [length],
        fun tree among => ?_, fun behind => ?_⟩
      · obtain rfl | among := List.mem_cons.mp among
        · exact ⟨c, List.mem_cons_self, found.1⟩
        · obtain ⟨c, listed, mark⟩ := marks tree among
          exact ⟨c, List.mem_cons_of_mem _ listed, mark⟩
      · rw [List.cons_append, Ahead.punctChars, found.1, again behind]
        · rfl
        · assumption
  | case4 => cases found

theorem isMark_other {c other : Char} {tree : SyntaxTree} (found : isMark c.toString tree = true)
    (differs : c ≠ other) : isMark other.toString tree = false := by
  have apart : (c.toString == other.toString) = false := by
    rw [beq_eq_false_iff_ne]
    exact fun same => differs (String.singleton_inj.mp same)
  unfold isMark at found
  split at found
  · rw [beq_iff_eq] at found
    exact found ▸ apart
  · rw [beq_iff_eq] at found
    exact found ▸ apart
  · cases found

theorem reads_punct_front {text : String} {scope : Scope} {tokens : List SyntaxTree}
    {leftOver : Option LeftOver} {value : SyntaxTree} {after : ReaderState}
    (something : text.toList ≠ [])
    (read : reads (punct text) scope ⟨tokens, leftOver⟩ = some (value, after)) :
    ∃ front rest, tokens = front ++ rest ∧ after = ⟨rest, leftOver⟩ ∧
      (∀ tree ∈ front, ∃ c ∈ text.toList, isMark c.toString tree = true) ∧
        front.length = text.length ∧
        ∀ elsewhere behind, reads (punct text) elsewhere ⟨front ++ behind, leftOver⟩ =
          some (value, ⟨behind, leftOver⟩) := by
  cases found : Ahead.punct text tokens with
  | false =>
      rw [reads_punct_of_not found] at read
      cases read
  | true =>
      rw [reads_punct_of found rfl] at read
      obtain ⟨rfl, rfl⟩ := Prod.mk.inj (Option.some.inj read)
      obtain ⟨front, rest, rfl, length, marks, again⟩ := exists_of_punctChars found
      rw [String.length_toList] at length
      refine ⟨front, rest, rfl, by rw [← length, List.drop_left], marks, length,
        fun elsewhere behind => ?_⟩
      rw [reads_punct_of (show Ahead.punct text (front ++ behind) = true from again behind) rfl,
        ← length, List.drop_left]
      cases front with
      | nil =>
          rw [← String.length_toList] at length
          exact absurd (List.length_eq_zero_iff.mp length.symm) something
      | cons tree front => rfl

/-- Plain punctuation is made of plain tokens. -/
theorem reads_punct_plain {text : String} [mark : PlainMark text] {scope : Scope}
    {tokens : List SyntaxTree} {leftOver : Option LeftOver} {value : SyntaxTree}
    {after : ReaderState}
    (read : reads (punct text) scope ⟨tokens, leftOver⟩ = some (value, after)) :
    ∃ front rest, tokens = front ++ rest ∧ after = ⟨rest, leftOver⟩ ∧
      (∀ tree ∈ front, isPlain tree = true) ∧
        ∀ elsewhere behind, reads (punct text) elsewhere ⟨front ++ behind, leftOver⟩ =
          some (value, ⟨behind, leftOver⟩) := by
  obtain ⟨front, rest, rfl, rfl, marks, -, again⟩ := reads_punct_front mark.plain.1 read
  refine ⟨front, rest, rfl, rfl, fun tree among => ?_, again⟩
  obtain ⟨c, listed, found⟩ := marks tree among
  obtain ⟨notComma, notOpen, notClose⟩ := mark.plain.2 c listed
  have opens : isMark "<" tree = false := isMark_other found notOpen
  have closes : isMark ">" tree = false := isMark_other found notClose
  have comma : isMark "," tree = false := isMark_other found notComma
  rw [isPlain, opens, closes, comma]
  rfl

instance replays_punct (text : String) [mark : PlainMark text] :
    Replays room more enter enter (punct text) (punct text) := by
  refine .of_tokens fun read => ?_
  obtain ⟨front, rest, same, ends, plain, again⟩ := reads_punct_plain read
  exact ⟨front, rest, same, ends, .plain _ plain, again⟩

/-- Punctuation of one character. -/
theorem replays_punct_single {text : String} {c : Char} (single : text.toList = [c])
    (spans : ∀ tree, isMark c.toString tree = true → Spans enter leave [tree]) :
    Replays room more enter leave (punct text) (punct text) := by
  refine .of_tokens fun read => ?_
  obtain ⟨front, rest, rfl, rfl, marks, length, again⟩ :=
    reads_punct_front (by rw [single]; exact List.cons_ne_nil _ _) read
  rw [← String.length_toList, single] at length
  obtain ⟨tree, rfl⟩ := List.length_eq_one_iff.mp length
  obtain ⟨other, listed, found⟩ := marks tree List.mem_cons_self
  rw [single, List.mem_singleton] at listed
  exact ⟨[tree], rest, rfl, rfl, spans tree (listed ▸ found), again⟩

instance replays_opens : Replays room more enter (enter + 1) (punct "<") (punct "<") :=
  replays_punct_single (show "<".toList = ['<'] from rfl) fun _ => .opens

instance replays_closes : Replays room more (leave + 1) leave (punct ">") (punct ">") :=
  replays_punct_single (show ">".toList = ['>'] from rfl) fun _ => .closes

instance replays_comma : Replays room more (enter + 1) (enter + 1) (punct ",") (punct ",") :=
  replays_punct_single (show ",".toList = [','] from rfl) fun _ => .comma

theorem exists_of_arrow {tokens : List SyntaxTree} (found : Ahead.punct "->" tokens = true) :
    ∃ line whole tip rest, tokens = .token .joined "-" line whole :: tip :: rest ∧
      isMark ">" tip = true := by
  obtain ⟨line, whole, rest, rfl, tip⟩ :=
    exists_of_pair found (show "->".toList = ['-', '>'] from rfl)
  cases rest with
  | nil => cases tip
  | cons tree rest =>
      exact ⟨line, whole, tree, rest, rfl, (punct_eq_isMark rfl tree rest).symm.trans tip⟩

/-- An arrow ends no value, as its tip is no comma. -/
instance replays_arrow : Replays room more enter enter (punct "->") (punct "->") := by
  refine .of_tokens fun {scope tokens leftOver value after} read => ?_
  cases found : Ahead.punct "->" tokens with
  | false =>
      rw [reads_punct_of_not found] at read
      cases read
  | true =>
      obtain ⟨line, whole, tip, rest, rfl, isTip⟩ := exists_of_arrow found
      have again (behind : List SyntaxTree) :
          Ahead.punct "->" (.token .joined "-" line whole :: tip :: behind) = true :=
        (punct_eq_isMark (show ">".toList.length = 1 from rfl) tip behind).trans isTip
      rw [reads_punct_of found (rfl : _ = 2)] at read
      obtain ⟨rfl, rfl⟩ := Prod.mk.inj (Option.some.inj read)
      refine ⟨[.token .joined "-" line whole, tip], rest, rfl, rfl, fun depth after => .inl ?_,
        fun elsewhere behind => reads_punct_of (again behind) (rfl : _ = 2)⟩
      have isTip : isMark '>'.toString tip = true := isTip
      have isNoComma : isMark "," tip = false := isMark_other isTip (show '>' ≠ ',' by decide)
      rw [List.cons_append, splitValue_plain _ rfl, List.singleton_append, splitValue,
        punct_eq_isMark rfl, isNoComma, Bool.and_false, if_neg Bool.false_ne_true]
      exact hasMark_iff.mpr ⟨_, List.suffix_refl _, again _⟩

/-! ### Marks of the grammar -/

instance : CommaFree "<" := ⟨by simp⟩

instance : CommaFree "<=" := ⟨by simp⟩

instance : CommaFree ">" := ⟨by simp⟩

instance : CommaFree "->" := ⟨by simp⟩

instance : PlainMark "::" := ⟨by simp⟩

instance : PlainMark ":" := ⟨by simp⟩

instance : PlainMark "=" := ⟨by simp⟩

instance : PlainMark "+" := ⟨by simp⟩

instance : PlainMark "+=" := ⟨by simp⟩

instance : PlainMark "-" := ⟨by simp⟩

instance : PlainMark "!" := ⟨by simp⟩

instance : PlainMark "!=" := ⟨by simp⟩

instance : PlainMark "?" := ⟨by simp⟩

instance : PlainMark "*" := ⟨by simp⟩

instance : PlainMark "&" := ⟨by simp⟩

instance : PlainMark "#" := ⟨by simp⟩

/-! ## Words -/

/-- A test that only the first token decides, and that no comma passes. -/
theorem Unswayed.of_first {test : List SyntaxTree → Bool} (nothing : test [] = false)
    (comma : ∀ kind line whole rest, kind = .punct ∨ kind = .joined →
      test (.token kind "," line whole :: rest) = false)
    (first : ∀ tree left right, test (tree :: left) = test (tree :: right)) : Unswayed test where
  same alike := by
    have stops {tokens : List SyntaxTree} (ends : ¬Astray tokens) : test tokens = false := by
      obtain rfl | ⟨line, whole, rest, rfl⟩ | ⟨line, whole, rest, rfl⟩ := end_cases ends
      · exact nothing
      · exact comma _ line whole rest (.inl rfl)
      · exact comma _ line whole rest (.inr rfl)
    obtain ⟨ends, ends', -⟩ | ⟨tree, left, right, rfl, rfl, -⟩ := alike.cases
    · rw [stops ends, stops ends']
    · exact first tree left right

instance unswayed_word (text : String) : Unswayed (Ahead.word text) :=
  .of_first rfl (by rintro kind line whole rest (rfl | rfl) <;> rfl)
    (by rintro (⟨_ | _⟩ | _ | _) left right <;> rfl)

instance unswayed_anyWord : Unswayed Ahead.anyWord :=
  .of_first rfl (by rintro kind line whole rest (rfl | rfl) <;> rfl)
    (by rintro (⟨_ | _⟩ | _ | _) left right <;> rfl)

instance unswayed_name : Unswayed Ahead.name :=
  .of_first rfl (by rintro kind line whole rest (rfl | rfl) <;> rfl)
    (by rintro (⟨_ | _⟩ | _ | _) left right <;> rfl)

instance unswayed_lifetime : Unswayed Ahead.lifetime :=
  .of_first rfl (by rintro kind line whole rest (rfl | rfl) <;> rfl)
    (by rintro (⟨_ | _⟩ | _ | _) left right <;> rfl)

instance unswayed_group (delimiter : Delimiter) : Unswayed (Ahead.group delimiter) :=
  .of_first rfl (by rintro kind line whole rest (rfl | rfl) <;> rfl)
    (by rintro (⟨_ | _⟩ | _ | _) left right <;> rfl)

instance unswayed_literalOf (kind : LiteralClass) : Unswayed (Ahead.literalOf kind) :=
  .of_first rfl (by rintro kind line whole rest (rfl | rfl) <;> rfl)
    (by rintro (⟨_ | _⟩ | _ | _) left right <;> rfl)

instance unswayed_or (one other : List SyntaxTree → Bool) [first : Unswayed one]
    [second : Unswayed other] : Unswayed fun ahead => one ahead || other ahead :=
  ⟨fun alike => by rw [first.same alike, second.same alike]⟩

instance unswayed_pathWord : Unswayed Ahead.pathWord :=
  inferInstanceAs (Unswayed fun ahead => Ahead.word "super" ahead || Ahead.word "self" ahead ||
    Ahead.word "Self" ahead || Ahead.word "crate" ahead)

instance unswayed_pathWords :
    Unswayed fun ahead => pathWords.any fun word => Ahead.word word ahead :=
  ⟨fun alike => by simp [pathWords, (unswayed_word _).same alike]⟩

theorem literal_cons (tree : SyntaxTree) {left right : List SyntaxTree}
    (integer : Ahead.literalOf .integer left = Ahead.literalOf .integer right)
    (float : Ahead.literalOf .float left = Ahead.literalOf .float right) :
    Ahead.literal (tree :: left) = Ahead.literal (tree :: right) := by
  have number (kind : TokenKind) (text : String) (line : Nat)
      (whole : isWhole (kind == .joined) text = true) (notLiteral : kind ≠ .literal)
      (notWord : kind ≠ .ident) (tokens : List SyntaxTree) :
      Ahead.literal (.token kind text line whole :: tokens) =
        (text == "-" && (Ahead.literalOf .integer tokens || Ahead.literalOf .float tokens)) := by
    unfold Ahead.literal Ahead.literalOf
    split
    · simp_all
    · simp_all
    · simp_all
    · split <;> simp_all
      grind
  cases tree with
  | token kind text line whole =>
      cases kind with
      | literal | ident => rfl
      | lifetime | punct | joined =>
          rw [number _ _ _ _ (by decide) (by decide), number _ _ _ _ (by decide) (by decide),
            integer, float]
  | group | node => rfl

instance unswayed_literal : Unswayed Ahead.literal where
  same alike := by
    obtain ⟨ends, ends', -⟩ | ⟨tree, left, right, rfl, rfl, behind⟩ := alike.cases
    · have stops {tokens : List SyntaxTree} (ends : ¬Astray tokens) :
          Ahead.literal tokens = false := by
        obtain rfl | ⟨line, whole, rest, rfl⟩ | ⟨line, whole, rest, rfl⟩ := end_cases ends <;> rfl
      rw [stops ends, stops ends']
    · exact literal_cons tree ((unswayed_literalOf _).same behind)
        ((unswayed_literalOf _).same behind)

instance replays_keyword? (text : String) :
    Replays room more enter enter (keyword? text) (keyword? text) := by
  unfold keyword?
  infer_instance

instance replays_punct? (text : String) [PlainMark text] :
    Replays room more enter enter (punct? text) (punct? text) := by
  unfold punct?
  infer_instance

/-! ## Tests of tokens behind the first -/

/-- Two tests of which the second counts only where the first holds. -/
theorem Replays.guarded {first second : List SyntaxTree → Bool}
    {next after : Bool → Bool → Reader α} [unswayed : Unswayed first]
    (same : ∀ {left right}, Behind 0 left right → first left = true → second left = second right)
    (idle : next false true = next false false) (idle' : after false true = after false false)
    (replays : ∀ one other, Replays room more enter leave (next one other) (after one other)) :
    Replays room more enter leave
      (peek first >>= fun one => peek second >>= fun other => next one other)
      (peek first >>= fun one => peek second >>= fun other => after one other) where
  clean read := (replays _ _).clean read
  front read enough := (replays _ _).front read enough
  again {scope elsewhere front value rest behind} read enough alike fits := by
    have read : reads (next (first (front ++ rest)) (second (front ++ rest))) scope
        ⟨front ++ rest, none⟩ = some (value, ⟨rest, none⟩) := read
    show reads (after (first (front ++ behind)) (second (front ++ behind))) elsewhere
      ⟨front ++ behind, none⟩ = some (value, ⟨behind, none⟩)
    have whole : Behind 0 (front ++ rest) (front ++ behind) := alike.outside.append _ (by simp)
    rw [← unswayed.same whole]
    cases holds : first (front ++ rest) with
    | true =>
        rw [holds] at read
        rw [← same whole holds]
        exact (replays _ _).again read enough alike fits
    | false =>
        rw [holds] at read
        have other (found : Bool) : next false found = next false false ∧
            after false found = after false false := by
          cases found
          · exact ⟨rfl, rfl⟩
          · exact ⟨idle, idle'⟩
        rw [(other _).1] at read
        rw [(other _).2]
        exact (replays _ _).again read enough alike fits

theorem exists_of_separator {tokens : List SyntaxTree}
    (separator : Ahead.punct "::" tokens = true) :
    ∃ line whole rest, tokens = .token .joined ":" line whole :: rest ∧
      Ahead.punct ":" rest = true :=
  exists_of_pair separator (show "::".toList = [':', ':'] from rfl)

theorem second_alike {first test : List SyntaxTree → Bool} [unswayed : Unswayed test]
    (stops : ∀ {tokens}, ¬Astray tokens → first tokens = false) {left right : List SyntaxTree}
    (alike : Behind 0 left right) (holds : first left = true) :
    Ahead.second test left = Ahead.second test right := by
  obtain ⟨ends, -, -⟩ | ⟨tree, left, right, rfl, rfl, behind⟩ := alike.cases
  · rw [stops ends] at holds
    cases holds
  · exact unswayed.same behind

theorem third_alike {test : List SyntaxTree → Bool} [unswayed : Unswayed test]
    {left right : List SyntaxTree} (alike : Behind 0 left right)
    (separator : Ahead.punct "::" left = true) :
    Ahead.third test left = Ahead.third test right := by
  obtain ⟨line, whole, rest, rfl, colon⟩ := exists_of_separator separator
  obtain ⟨ends, -, -⟩ | ⟨first, left, right, same, rfl, behind⟩ := alike.cases
  · exact absurd ⟨List.cons_ne_nil _ _, rfl⟩ ends
  · obtain ⟨rfl, rfl⟩ := List.cons.inj same
    obtain ⟨ends, -, -⟩ | ⟨second, left, right, rfl, rfl, further⟩ := behind.cases
    · rw [Ahead.punct, show ":".toList = [':'] from rfl,
        punctChars_ends ends (by decide)] at colon
      cases colon
    · exact unswayed.same further

theorem lifetime_ends {tokens : List SyntaxTree} (ends : ¬Astray tokens) :
    Ahead.lifetime tokens = false := by
  obtain rfl | ⟨line, whole, rest, rfl⟩ | ⟨line, whole, rest, rfl⟩ := end_cases ends <;> rfl

/-- A reader that also gives the tokens it has taken. -/
theorem Replays.of_since {reader other : Reader α} {finish : List SyntaxTree → α → Reader β}
    {value : α → List SyntaxTree → β}
    (finishes : ∀ start found scope state, reads (finish start found) scope state =
      some (value found (start.take (start.length - state.rest.length)), state))
    (replays : Replays room more enter leave reader other) :
    Replays room more enter leave (ahead >>= fun start => reader >>= finish start)
      (ahead >>= fun start => other >>= finish start) := by
  have through (reader : Reader α) (scope : Scope) (tokens after : List SyntaxTree)
      (leftOver : Option LeftOver) (result : β) :
      reads (ahead >>= fun start => reader >>= finish start) scope ⟨tokens, leftOver⟩ =
          some (result, ⟨after, none⟩) ↔
        ∃ found, reads reader scope ⟨tokens, leftOver⟩ = some (found, ⟨after, none⟩) ∧
          value found (tokens.take (tokens.length - after.length)) = result := by
    rw [reads_bind, reads_ahead, Option.bind_some, reads_bind, Option.bind_eq_some_iff]
    constructor
    · rintro ⟨⟨found, state⟩, read, ended⟩
      rw [finishes] at ended
      obtain ⟨same, rfl⟩ := Prod.mk.inj (Option.some.inj ended)
      exact ⟨found, read, same⟩
    · rintro ⟨found, read, rfl⟩
      exact ⟨_, read, finishes ..⟩
  refine ⟨fun {scope before value after} read => ?_, fun read enough => ?_,
    fun {scope elsewhere front value after behind} read enough alike fits => ?_⟩
  · obtain ⟨found, first, -⟩ := (through ..).mp read
    exact replays.clean first
  · obtain ⟨found, first, -⟩ := (through ..).mp read
    exact replays.front first enough
  · obtain ⟨found, first, rfl⟩ := (through ..).mp read
    refine (through ..).mpr ⟨found, replays.again first enough alike fits, ?_⟩
    simp

/-! ## Repetition -/

section Repetition

variable {stop goesOn : Reader Bool} {value separator : Reader SyntaxTree}
  [stops : ∀ room more, Replays room more enter enter stop stop]
  [goes : ∀ room more, Replays room more enter enter goesOn goesOn]
  [values : ∀ room more, Replays room more enter enter value value]
  [separators : ∀ room more, Replays room more enter enter separator separator]

theorem replays_manyUntil (shortens : Shortens value) :
    Replays room more enter enter (manyUntil stop value) (manyUntil stop value) := by
  refine .of_loop (fun _ => ⟨_, rfl⟩) fun fuel fuel' ih done => ?_
  unfold manyUntil.loop
  refine (stops _ _).bind fun ends => ?_
  cases ends with
  | true => exact replays_pure _
  | false => exact .bind_of_shortens shortens inferInstance fun tree => ih _

theorem replays_separated (shortens : Shortens separator) :
    Replays room more enter enter (separated stop value separator)
      (separated stop value separator) := by
  refine .of_loop (fun _ => ⟨_, rfl⟩) fun fuel fuel' ih done => ?_
  unfold separated.loop
  refine (stops _ _).bind fun ends => ?_
  cases ends with
  | true => exact replays_pure _
  | false =>
      refine (values _ _).bind fun tree => (stops _ _).bind fun ends => ?_
      cases ends with
      | true => exact replays_pure _
      | false => exact .bind_of_shortens shortens inferInstance fun sign => ih _

theorem replays_chained (shortens : Shortens separator) :
    Replays room more enter enter (chained stop value goesOn separator)
      (chained stop value goesOn separator) := by
  refine .of_loop (fun _ => ⟨_, rfl⟩) fun fuel fuel' ih done => ?_
  unfold chained.loop
  refine (stops _ _).bind fun ends => ?_
  cases ends with
  | true => exact replays_pure _
  | false =>
      refine (values _ _).bind fun tree => (goes _ _).bind fun more => ?_
      cases more with
      | true => exact .bind_of_shortens shortens inferInstance fun sign => ih _
      | false => exact replays_pure _

/-- A list between angle brackets. -/
instance replays_separated_comma (stop : Reader Bool) (value : Reader SyntaxTree)
    [∀ room more, Replays room more (enter + 1) (enter + 1) stop stop]
    [∀ room more, Replays room more (enter + 1) (enter + 1) value value] :
    Replays room more (enter + 1) (enter + 1) (separated stop value (punct ","))
      (separated stop value (punct ",")) :=
  replays_separated (shortens_punct (by decide))

/-- A sum. -/
instance replays_chained_plus (stop goesOn : Reader Bool) (value : Reader SyntaxTree)
    [∀ room more, Replays room more enter enter stop stop]
    [∀ room more, Replays room more enter enter goesOn goesOn]
    [∀ room more, Replays room more enter enter value value] :
    Replays room more enter enter (chained stop value goesOn (punct "+"))
      (chained stop value goesOn (punct "+")) :=
  replays_chained (shortens_punct (by decide))

end Repetition

end Steps

end Wiring.Expansion
