import Mathlib.Data.List.Infix
import Wiring.Grammar.Reader

/-!
# What readers make of tokens

A reader gives a value and the tokens after it, or nothing. Here is what the elementary readers
give, and how it carries over to readers made of them.
-/

set_option autoImplicit false

namespace Wiring.Grammar.Reader

variable {α β : Type}

/-- What a reader gives: the value and the state after it, unless it refuses. -/
def reads (reader : Reader α) (scope : Scope) (state : ReaderState) : Option (α × ReaderState) :=
  (reader scope state).toOption

section Steps

variable {scope : Scope} {state : ReaderState}

@[simp]
theorem reads_pure (value : α) : reads (pure value) scope state = some (value, state) :=
  rfl

@[simp]
theorem reads_bind (first : Reader α) (next : α → Reader β) :
    reads (first >>= next) scope state =
      (reads first scope state).bind fun step => reads (next step.1) scope step.2 := by
  have run : (first >>= next) scope state =
      (first scope state) >>= fun step => next step.1 scope step.2 := rfl
  rw [reads, reads, run]
  cases first scope state with
  | error error => rfl
  | ok step => rfl

theorem reads_bind_congr {first second : Reader α} {left right : α → Reader β}
    (heads : reads first scope state = reads second scope state)
    (same : ∀ value after, reads second scope state = some (value, after) →
      reads (left value) scope after = reads (right value) scope after) :
    reads (first >>= left) scope state = reads (second >>= right) scope state := by
  rw [reads_bind, reads_bind, heads]
  cases read : reads second scope state with
  | none => rfl
  | some step => exact same step.1 step.2 read

theorem exists_of_reads_bind {first : Reader α} {next : α → Reader β} {value : β}
    {after : ReaderState} (read : reads (first >>= next) scope state = some (value, after)) :
    ∃ found between, reads first scope state = some (found, between) ∧
      reads (next found) scope between = some (value, after) := by
  rw [reads_bind, Option.bind_eq_some_iff] at read
  obtain ⟨⟨found, between⟩, begun, read⟩ := read
  exact ⟨found, between, begun, read⟩

@[simp]
theorem reads_ite (condition : Prop) [Decidable condition] (left right : Reader α) :
    reads (if condition then left else right) scope state =
      if condition then reads left scope state else reads right scope state := by
  split <;> rfl

@[simp]
theorem reads_ahead : reads ahead scope state = some (state.rest, state) :=
  rfl

@[simp]
theorem reads_peek (test : List SyntaxTree → Bool) :
    reads (peek test) scope state = some (test state.rest, state) :=
  rfl

@[simp]
theorem reads_isEmpty : reads isEmpty scope state = some (state.rest.isEmpty, state) :=
  rfl

@[simp]
theorem reads_get : reads (get : Reader ReaderState) scope state = some (state, state) :=
  rfl

def lineIn (scope : Scope) : List SyntaxTree → Nat
  | [] => scope.closeLine
  | tree :: _ => tree.line

@[simp]
theorem reads_lineAhead :
    reads lineAhead scope state = some (lineIn scope state.rest, state) := by
  obtain ⟨rest, leftOver⟩ := state
  cases rest <;> rfl

@[simp]
theorem reads_refuse (cause : Cause) : reads (refuse cause : Reader α) scope state = none := by
  obtain ⟨rest, leftOver⟩ := state
  cases rest <;> rfl

@[simp]
theorem reads_expected (alternatives : List String) :
    reads (expected alternatives : Reader α) scope state = none :=
  reads_refuse _

end Steps

section Tokens

variable {scope : Scope} {rest : List SyntaxTree} {leftOver : Option LeftOver}

theorem reads_next?_nil : reads next? scope ⟨[], leftOver⟩ = some (none, ⟨[], leftOver⟩) :=
  rfl

theorem reads_next?_cons (tree : SyntaxTree) :
    reads next? scope ⟨tree :: rest, leftOver⟩ = some (some tree, ⟨rest, leftOver⟩) :=
  rfl

/-- Punctuation at the head begins with a token of its first character. -/
theorem exists_of_punct {text : String} {first : Char} {more : List Char}
    (found : Ahead.punct text rest = true) (chars : text.toList = first :: more) :
    ∃ kind line whole after, rest = .token kind first.toString line whole :: after ∧
      (kind = .punct ∨ kind = .joined) := by
  rw [Ahead.punct, chars] at found
  unfold Ahead.punctChars at found
  split at found
  · rename_i same
    cases same
  · rename_i kind text line whole after same
    obtain ⟨rfl, -⟩ := List.cons.inj same
    rw [Bool.and_eq_true, Bool.or_eq_true, beq_iff_eq, beq_iff_eq, beq_iff_eq] at found
    obtain ⟨kinds, rfl⟩ := found
    exact ⟨kind, line, whole, after, rfl, kinds⟩
  · rename_i same
    obtain ⟨rfl, -⟩ := List.cons.inj same
    rw [Bool.and_eq_true, beq_iff_eq] at found
    obtain ⟨rfl, -⟩ := found
    exact ⟨.joined, _, _, _, rfl, .inr rfl⟩
  · cases found

/-- Punctuation of two characters begins with a token that is joined to the next one. -/
theorem exists_of_pair {text : String} {first second : Char}
    (found : Ahead.punct text rest = true) (pair : text.toList = [first, second]) :
    ∃ line whole after, rest = .token .joined first.toString line whole :: after ∧
      Ahead.punctChars [second] after = true := by
  obtain ⟨kind, line, whole, after, rfl, rfl | rfl⟩ := exists_of_punct found pair
  · rw [Ahead.punct, pair] at found
    cases found
  · rw [Ahead.punct, pair] at found
    exact ⟨line, whole, after, rfl, (Bool.and_eq_true_iff.mp found).2⟩

theorem reads_punct_of {text : String} {size : Nat} (found : Ahead.punct text rest = true)
    (length : text.length = size) :
    reads (punct text) scope ⟨rest, leftOver⟩ =
      some (.token .punct text (lineIn scope rest) (Ahead.isWhole_of_punct found),
        ⟨rest.drop size, leftOver⟩) := by
  subst length
  rw [punct, reads_bind, reads_ahead, Option.bind_some]
  dsimp only
  rw [dif_pos found, reads_bind, reads_lineAhead]
  rfl

theorem reads_punct_of_not {text : String} (missing : Ahead.punct text rest = false) :
    reads (punct text) scope ⟨rest, leftOver⟩ = none := by
  rw [punct, reads_bind, reads_ahead, Option.bind_some]
  dsimp only
  rw [dif_neg (by rw [missing]; exact Bool.false_ne_true), reads_bind, reads_lineAhead]
  rfl

@[simp]
theorem reads_anyWord_word {text : String} {line : Nat}
    {whole : isWhole (TokenKind.ident == .joined) text = true} :
    reads anyWord scope ⟨.token .ident text line whole :: rest, leftOver⟩ =
      some (.token .ident text line whole, ⟨rest, leftOver⟩) :=
  rfl

theorem reads_anyWord_of_not (missing : Ahead.anyWord rest = false) :
    reads anyWord scope ⟨rest, leftOver⟩ = none := by
  unfold Ahead.anyWord at missing
  split at missing
  · cases missing
  · rename_i other
    rw [anyWord, reads_bind, reads_ahead, Option.bind_some]
    dsimp only
    split
    · exact absurd rfl (other _ _ _ _)
    · exact reads_expected _

theorem reads_name_word {text : String} {line : Nat}
    {whole : isWhole (TokenKind.ident == .joined) text = true} :
    reads name scope ⟨.token .ident text line whole :: rest, leftOver⟩ =
      if Ahead.keywords.contains text then none
      else some (.token .ident text line whole, ⟨rest, leftOver⟩) := by
  rw [name, reads_bind, reads_ahead, Option.bind_some]
  dsimp only
  rw [reads_ite, reads_refuse]
  rfl

theorem reads_name_of_not (missing : Ahead.anyWord rest = false) :
    reads name scope ⟨rest, leftOver⟩ = none := by
  unfold Ahead.anyWord at missing
  split at missing
  · cases missing
  · rename_i other
    rw [name, reads_bind, reads_ahead, Option.bind_some]
    dsimp only
    split
    · exact absurd rfl (other _ _ _ _)
    · exact reads_expected _

theorem reads_stringLiteral_literal {text : String} {line : Nat}
    {whole : isWhole (TokenKind.literal == .joined) text = true} :
    reads stringLiteral scope ⟨.token .literal text line whole :: rest, leftOver⟩ =
      if literalClass text == .string then
        some (.token .literal text line whole, ⟨rest, leftOver⟩)
      else none := by
  rw [stringLiteral, reads_bind, reads_ahead, Option.bind_some]
  dsimp only
  rw [reads_ite, reads_expected]
  rfl

theorem reads_group (delimiter : Delimiter) (body : Reader α) (inner : List SyntaxTree)
    (openLine closeLine : Nat) :
    reads (group delimiter body) scope
        ⟨.group delimiter inner openLine closeLine :: rest, leftOver⟩ =
      (reads body ⟨closeLine, some delimiter⟩ ⟨inner, none⟩).map fun step =>
        ((step.1, openLine, closeLine), ⟨rest,
          noteLeftOver (leftOver.or step.2.leftOver) (some delimiter) step.2.rest⟩) := by
  rw [group, reads_bind, reads_ahead, Option.bind_some]
  dsimp only
  rw [if_pos (beq_self_eq_true delimiter), reads_bind, reads_get, Option.bind_some]
  unfold reads
  cases body ⟨closeLine, some delimiter⟩ ⟨inner, none⟩ with
  | error error => rfl
  | ok step => rfl

theorem exists_of_group {delimiter : Delimiter} (found : Ahead.group delimiter rest = true) :
    ∃ inner openLine closeLine after,
      rest = .group delimiter inner openLine closeLine :: after := by
  unfold Ahead.group at found
  split at found
  · rename_i other inner openLine closeLine after
    obtain rfl := eq_of_beq found
    exact ⟨inner, openLine, closeLine, after, rfl⟩
  · cases found

theorem reads_group_of_not {delimiter : Delimiter} (body : Reader α)
    (missing : Ahead.group delimiter rest = false) :
    reads (group delimiter body) scope ⟨rest, leftOver⟩ = none := by
  rw [group, reads_bind, reads_ahead, Option.bind_some]
  dsimp only
  unfold Ahead.group at missing
  split
  · rw [reads_ite, if_neg (by simpa using missing), reads_expected]
  · exact reads_expected _

theorem reads_allTokens : reads allTokens scope ⟨rest, leftOver⟩ = some (rest, ⟨[], leftOver⟩) :=
  rfl

theorem reads_punct?_of_not {text : String} (missing : Ahead.punct text rest = false) :
    reads (punct? text) scope ⟨rest, leftOver⟩ = some ([], ⟨rest, leftOver⟩) := by
  rw [punct?, reads_bind, reads_peek, Option.bind_some, reads_ite]
  dsimp only
  rw [missing]
  rfl

end Tokens

/-! ## Marks among tokens -/

def hasMark (text : String) (tokens : List SyntaxTree) : Bool :=
  tokens.tails.any (Ahead.punct text)

theorem hasMark_iff {text : String} {tokens : List SyntaxTree} :
    hasMark text tokens = true ↔ ∃ rest, rest <:+ tokens ∧ Ahead.punct text rest = true := by
  simp [hasMark, List.any_eq_true, List.mem_tails]

theorem hasMark_of_punct {text : String} {tokens : List SyntaxTree}
    (found : Ahead.punct text tokens = true) : hasMark text tokens = true :=
  hasMark_iff.mpr ⟨tokens, List.suffix_refl _, found⟩

theorem hasMark_of_suffix {text : String} {rest tokens : List SyntaxTree} (suffix : rest <:+ tokens)
    (found : hasMark text rest = true) : hasMark text tokens = true := by
  obtain ⟨further, ends, mark⟩ := hasMark_iff.mp found
  exact hasMark_iff.mpr ⟨further, ends.trans suffix, mark⟩

/-! ## Whole texts -/

theorem noteLeftOver_eq_none_iff {before : Option LeftOver} {inside : Option Delimiter}
    {rest : List SyntaxTree} :
    noteLeftOver before inside rest = none ↔ before = none ∧ rest = [] := by
  cases rest with
  | nil => simp [noteLeftOver]
  | cons tree rest => cases before <;> simp [noteLeftOver]

/-- A whole text is read if nothing of it is left over, neither at its end nor in a group. -/
theorem run_eq_ok_iff {reader : Reader α} {scope : Scope} {tokens : List SyntaxTree} {value : α} :
    run reader scope tokens = .ok value ↔
      reads reader scope ⟨tokens, none⟩ = some (value, ⟨[], none⟩) := by
  unfold run reads
  cases reader scope ⟨tokens, none⟩ with
  | error error => simp [Except.toOption]
  | ok step =>
      obtain ⟨found, rest, leftOver⟩ := step
      cases noted : noteLeftOver leftOver none rest with
      | none =>
          obtain ⟨rfl, rfl⟩ := noteLeftOver_eq_none_iff.mp noted
          simp [Except.toOption, noted]
      | some left =>
          have other : ¬(rest = [] ∧ leftOver = none) := by
            rintro ⟨rfl, rfl⟩
            cases noted
          simp [Except.toOption, noted, other]

end Wiring.Grammar.Reader
