import Mathlib.Data.List.Infix
import Wiring.Grammar.Parse
import Wiring.Proofs.Grammar.Reading

/-!
# Readers move forward

A reader only takes tokens away from the front of what is ahead, and what a group has left over
stays noted. See `Onward`, and `onwardForms_nonterminal` for the productions of the grammar.
-/

set_option autoImplicit false

namespace Wiring.Grammar.Reader

/-- Whether a state is past another: only tokens ahead are gone, and what has been noted stays
noted. -/
structure Past (before after : ReaderState) : Prop where
  suffix : after.rest <:+ before.rest
  noted : before.leftOver.isSome = true → after.leftOver.isSome = true

/-- A reader that only moves forward. -/
class Onward {α : Type} (reader : Reader α) : Prop where
  past : ∀ {scope before value after}, reads reader scope before = some (value, after) →
    Past before after

/-! ## Steps -/

section Steps

variable {α β : Type}

theorem Past.refl (state : ReaderState) : Past state state :=
  ⟨List.suffix_refl _, id⟩

theorem Past.trans {first second third : ReaderState} (left : Past first second)
    (right : Past second third) : Past first third :=
  ⟨right.suffix.trans left.suffix, fun noted => right.noted (left.noted noted)⟩

theorem Past.dropped {rest tokens : List SyntaxTree} (leftOver : Option LeftOver)
    (suffix : rest <:+ tokens) : Past ⟨tokens, leftOver⟩ ⟨rest, leftOver⟩ :=
  ⟨suffix, id⟩

theorem Onward.bind {first : Reader α} {next : α → Reader β} (left : Onward first)
    (right : ∀ value, Onward (next value)) : Onward (first >>= next) where
  past read := by
    obtain ⟨_, _, begun, read⟩ := exists_of_reads_bind read
    exact (left.past begun).trans ((right _).past read)

instance onward_bind (first : Reader α) (next : α → Reader β) [left : Onward first]
    [right : ∀ value, Onward (next value)] : Onward (first >>= next) :=
  left.bind right

instance onward_ite (condition : Prop) [Decidable condition] (left right : Reader α) [Onward left]
    [Onward right] : Onward (if condition then left else right) := by
  split <;> infer_instance

/-- A reader that gives what it finds, and stays where it is. -/
theorem Onward.of_same {reader : Reader α}
    (same : ∀ scope state value after, reads reader scope state = some (value, after) →
      after = state) : Onward reader where
  past read := same _ _ _ _ read ▸ .refl _

/-- A reader that looks at the tokens ahead. -/
theorem Onward.of_ahead {next : List SyntaxTree → Reader α}
    (past : ∀ {scope tokens leftOver value after},
      reads (next tokens) scope ⟨tokens, leftOver⟩ = some (value, after) →
        Past ⟨tokens, leftOver⟩ after) : Onward (ahead >>= next) where
  past read := past read

instance onward_pure (value : α) : Onward (pure value : Reader α) :=
  .of_same fun _ _ _ _ read => (Prod.mk.inj (Option.some.inj read)).2.symm

instance onward_ahead : Onward ahead :=
  .of_same fun _ _ _ _ read => (Prod.mk.inj (Option.some.inj read)).2.symm

instance onward_peek (test : List SyntaxTree → Bool) : Onward (peek test) :=
  .of_same fun _ _ _ _ read => (Prod.mk.inj (Option.some.inj read)).2.symm

instance onward_isEmpty : Onward isEmpty :=
  inferInstanceAs (Onward (peek _))

instance onward_lineAhead : Onward lineAhead := by
  refine .of_same fun _ _ _ _ read => ?_
  rw [reads_lineAhead] at read
  exact (Prod.mk.inj (Option.some.inj read)).2.symm

instance onward_refuse (cause : Cause) : Onward (refuse cause : Reader α) where
  past read := by
    rw [reads_refuse] at read
    cases read

instance onward_expected (alternatives : List String) :
    Onward (expected alternatives : Reader α) :=
  inferInstanceAs (Onward (refuse _))

instance onward_refuseAt (line : Nat) (cause : Cause) :
    Onward (refuseAt line cause : Reader α) where
  past read := by cases read

/-- What comes after dropping tokens moves forward from what is left of them. -/
theorem past_of_advance {scope : Scope} {tokens rest : List SyntaxTree}
    {leftOver : Option LeftOver} {next : Reader α} [onward : Onward next] {value : α}
    {after : ReaderState}
    (read : reads ((modify fun state => { state with rest } : Reader Unit) >>= fun _ => next) scope
      ⟨tokens, leftOver⟩ = some (value, after))
    (suffix : rest <:+ tokens) : Past ⟨tokens, leftOver⟩ after :=
  (Past.dropped leftOver suffix).trans (onward.past read)

instance onward_punct (text : String) : Onward (punct text) where
  past {scope before value after} read := by
    obtain ⟨rest, leftOver⟩ := before
    cases found : Ahead.punct text rest with
    | true =>
        rw [reads_punct_of found rfl] at read
        obtain ⟨-, rfl⟩ := Prod.mk.inj (Option.some.inj read)
        exact .dropped _ (List.drop_suffix ..)
    | false =>
        rw [reads_punct_of_not found] at read
        cases read

instance onward_keyword (text : String) : Onward (keyword text) := by
  refine .of_ahead fun read => ?_
  split at read
  · rw [reads_bind, reads_lineAhead] at read
    obtain ⟨-, rfl⟩ := Prod.mk.inj (Option.some.inj read)
    exact .dropped _ (List.drop_suffix ..)
  · rw [reads_expected] at read
    cases read

instance onward_anyWord : Onward anyWord := by
  refine .of_ahead fun read => ?_
  split at read
  · exact past_of_advance read (List.suffix_cons ..)
  · rw [reads_expected] at read
    cases read

instance onward_name : Onward name := by
  refine .of_ahead fun read => ?_
  split at read
  · rw [reads_ite, reads_refuse] at read
    split at read
    · cases read
    · exact past_of_advance read (List.suffix_cons ..)
  · rw [reads_expected] at read
    cases read

instance onward_lifetime : Onward lifetime := by
  refine .of_ahead fun read => ?_
  split at read
  · exact past_of_advance read (List.suffix_cons ..)
  · rw [reads_expected] at read
    cases read

instance onward_literal : Onward literal := by
  refine .of_ahead fun read => ?_
  split at read
  · exact past_of_advance read (List.suffix_cons ..)
  · rw [reads_ite, reads_expected] at read
    split at read
    · exact past_of_advance read (List.suffix_cons ..)
    · cases read
  · rw [reads_ite, reads_expected] at read
    split at read
    · exact past_of_advance read ((List.suffix_cons ..).trans (List.suffix_cons ..))
    · cases read
  · rw [reads_expected] at read
    cases read

instance onward_stringLiteral : Onward stringLiteral := by
  refine .of_ahead fun read => ?_
  split at read
  · rw [reads_ite, reads_expected] at read
    split at read
    · exact past_of_advance read (List.suffix_cons ..)
    · cases read
  · rw [reads_expected] at read
    cases read

theorem noteLeftOver_isSome {before : Option LeftOver} {inside : Option Delimiter}
    {rest : List SyntaxTree} (noted : before.isSome = true) :
    (noteLeftOver before inside rest).isSome = true := by
  cases rest with
  | nil => exact noted
  | cons tree rest =>
      rw [noteLeftOver, Option.isSome_or, noted, Bool.true_or]

instance onward_group (delimiter : Delimiter) (body : Reader α) :
    Onward (group delimiter body) where
  past {scope before value after} read := by
    obtain ⟨rest, leftOver⟩ := before
    cases found : Ahead.group delimiter rest with
    | true =>
        obtain ⟨inner, openLine, closeLine, rest, rfl⟩ := exists_of_group found
        rw [reads_group, Option.map_eq_some_iff] at read
        obtain ⟨step, -, same⟩ := read
        obtain ⟨-, rfl⟩ := Prod.mk.inj same
        refine ⟨List.suffix_cons .., fun noted => noteLeftOver_isSome ?_⟩
        rw [Option.isSome_or, noted, Bool.true_or]
    | false =>
        rw [reads_group_of_not body found] at read
        cases read

instance onward_groupOf (delimiter : Delimiter) (body : Reader (List SyntaxTree)) :
    Onward (groupOf delimiter body) := by
  unfold groupOf
  infer_instance

instance onward_keyword? (text : String) : Onward (keyword? text) := by
  unfold keyword?
  infer_instance

instance onward_punct? (text : String) : Onward (punct? text) := by
  unfold punct?
  infer_instance

instance onward_since (start : List SyntaxTree) : Onward (since start) := by
  unfold since
  infer_instance

instance onward_rawGroup : Onward rawGroup := by
  refine .of_ahead fun read => ?_
  split at read
  · exact past_of_advance read (List.suffix_cons ..)
  · rw [reads_expected] at read
    cases read

theorem onward_forIn (items : List α) (start : β) (step : α → β → Reader (ForInStep β))
    (onward : ∀ item value, Onward (step item value)) : Onward (forIn items start step) := by
  induction items generalizing start with
  | nil =>
      rw [List.forIn_nil]
      infer_instance
  | cons item items ih =>
      rw [List.forIn_cons]
      refine .bind (onward item start) fun turn => ?_
      cases turn <;> infer_instance

end Steps

/-! ## Repetition -/

section Repetition

variable (stop goesOn : Reader Bool) (value separator : Reader SyntaxTree) [Onward stop]
  [Onward goesOn] [Onward value] [Onward separator]

instance onward_manyUntil_loop (fuel : Nat) (done : List SyntaxTree) :
    Onward (manyUntil.loop stop value fuel done) := by
  induction fuel generalizing done with
  | zero => exact onward_pure _
  | succ fuel ih =>
      unfold manyUntil.loop
      infer_instance

instance onward_manyUntil : Onward (manyUntil stop value) := by
  unfold manyUntil
  infer_instance

instance onward_separated_loop (fuel : Nat) (done : List SyntaxTree) :
    Onward (separated.loop stop value separator fuel done) := by
  induction fuel generalizing done with
  | zero => exact onward_pure _
  | succ fuel ih =>
      unfold separated.loop
      infer_instance

instance onward_separated : Onward (separated stop value separator) := by
  unfold separated
  infer_instance

instance onward_chained_loop (fuel : Nat) (done : List SyntaxTree) :
    Onward (chained.loop stop value goesOn separator fuel done) := by
  induction fuel generalizing done with
  | zero => exact onward_pure _
  | succ fuel ih =>
      unfold chained.loop
      infer_instance

instance onward_chained : Onward (chained stop value goesOn separator) := by
  unfold chained
  infer_instance

end Repetition

end Wiring.Grammar.Reader
