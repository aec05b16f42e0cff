import Wiring.Proofs.Expansion.Settled

/-!
# Handlers of arguments

The named arguments of modules and of services are handled one by one. Discovery comes out after one
exactly if the declaration attribute accepts it. See `comes_argument`.
-/

set_option autoImplicit false

namespace Wiring.Expansion

open Wiring.Grammar
open Wiring.Grammar.Reader
open Wiring.Source

/-! ## One argument -/

def accepted (nested : Nested) (form : String → Form) (tokens : List SyntaxTree) :
    Option (List SyntaxTree) :=
  (splitArgument tokens).bind fun split =>
    if accepts nested (form split.1.name) split.1.value = true ∧ ¬Astray split.2 then some split.2
    else none

section Arguments

variable {scope : Scope} {tokens after : List SyntaxTree}

theorem lonePathName?_of_length {parts : List SyntaxTree} (more : parts.length ≠ 1) :
    (SyntaxTree.node .path parts).lonePathName? = none := by
  unfold SyntaxTree.lonePathName?
  split
  · rename_i same
    rw [show parts = _ from same] at more
    exact absurd rfl more
  · rfl

theorem length_argumentPath_loop {fuel : Nat} {done result : List SyntaxTree}
    {state last : ReaderState}
    (read : reads (argumentPath.loop fuel done) scope state = some (result, last)) :
    done.length ≤ result.length ∧
      (0 < fuel → Ahead.punct "::" state.rest = true → done.length < result.length) := by
  induction fuel generalizing done state with
  | zero =>
      obtain ⟨rfl, -⟩ := Prod.mk.inj (Option.some.inj read)
      exact ⟨Nat.le_refl _, fun impossible => absurd impossible (Nat.lt_irrefl _)⟩
  | succ fuel ih =>
      rw [argumentPath.loop, reads_bind, reads_peek, Option.bind_some, reads_ite] at read
      split at read
      · obtain ⟨_, _, -, read⟩ := exists_of_reads_bind read
        obtain ⟨_, _, -, read⟩ := exists_of_reads_bind read
        have longer := (ih read).1
        rw [List.length_append, List.length_cons, List.length_cons] at longer
        omega
      · rename_i missing
        obtain ⟨rfl, -⟩ := Prod.mk.inj (Option.some.inj read)
        exact ⟨Nat.le_refl _, fun _ separator => absurd separator missing⟩

theorem reads_argumentPath_of_word {text : String} {line : Nat}
    {whole : isWhole (TokenKind.ident == .joined) text = true} {rest : List SyntaxTree}
    {leftOver : Option LeftOver} (alone : Ahead.punct "::" rest = false) :
    reads argumentPath scope ⟨.token .ident text line whole :: rest, leftOver⟩ =
      some (.node .path [.node .segment [.token .ident text line whole]], ⟨rest, leftOver⟩) := by
  have begins : reads (punct? "::") scope ⟨.token .ident text line whole :: rest, leftOver⟩ =
      some ([], ⟨.token .ident text line whole :: rest, leftOver⟩) := rfl
  have further : reads (argumentPath.loop (rest.length + 1) []) scope ⟨rest, leftOver⟩ =
      some ([], ⟨rest, leftOver⟩) := by
    rw [argumentPath.loop, reads_bind, reads_peek, Option.bind_some, reads_ite]
    dsimp only
    rw [alone]
    rfl
  rw [reads_argumentPath begins]
  show Option.map _ (reads (argumentPath.loop (rest.length + 1) []) scope ⟨rest, leftOver⟩) = _
  rw [further]
  rfl

theorem lonePathName?_of_reads {path : SyntaxTree} {state : ReaderState}
    {leftOver : Option LeftOver}
    (other : ∀ text line whole rest, tokens = .token .ident text line whole :: rest →
      Ahead.punct "::" rest = true)
    (read : reads argumentPath scope ⟨tokens, leftOver⟩ = some (path, state)) :
    path.lonePathName? = none := by
  obtain ⟨root, rooted, -, begins⟩ := reads_separator? scope tokens leftOver
  rw [reads_argumentPath begins] at read
  by_cases separator : Ahead.punct "::" tokens = true
  · obtain ⟨-, read⟩ := Option.ite_none_right_eq_some.mp read
    obtain ⟨further, -, same⟩ := Option.map_eq_some_iff.mp read
    obtain ⟨rfl, rfl⟩ := Prod.mk.inj same
    refine lonePathName?_of_length ?_
    rw [List.length_append, List.length_append, List.length_singleton, rooted separator]
    omega
  · rw [if_neg separator] at read
    obtain ⟨word, read⟩ := Option.ite_none_right_eq_some.mp read
    obtain ⟨text, line, whole, rest, rfl⟩ := exists_of_anyWord word
    obtain ⟨further, loop, same⟩ := Option.map_eq_some_iff.mp read
    obtain ⟨rfl, rfl⟩ := Prod.mk.inj same
    have longer := (length_argumentPath_loop loop).2 (Nat.succ_pos _) (other _ _ _ _ rfl)
    refine lonePathName?_of_length ?_
    rw [List.length_append, List.length_append, List.length_singleton]
    rw [List.length_nil] at longer
    omega

/-! ## Handlers of arguments -/

/-- A handler of named arguments that reads each of them as its form says, refuses what is no name,
and keeps what it has gathered fine. -/
structure Handles {σ : Type} (handle : Nested → SyntaxTree → σ → Reader σ) (form : String → Form)
    (fine : σ → Prop) : Prop where
  named : ∀ {nested path name gathered scope state}, path.lonePathName? = some name →
    (reads (handle nested path gathered) scope state).map (·.2) =
      (reads (skim nested (form name)) scope state).map (·.2)
  unnamed : ∀ {nested path gathered scope state}, path.lonePathName? = none →
    reads (handle nested path gathered) scope state = none
  keyword : ∀ {name}, Ahead.keywords.contains name = true → form name = .unknown
  onward : ∀ (nested) [OnwardForms nested] (path gathered), Onward (handle nested path gathered)
  keeps : ∀ {depth path name gathered scope tokens after result},
    path.lonePathName? = some name → fine gathered →
      (∀ value after, splitAfterName tokens = some (value, after) →
        Settled (nonterminal depth) (form name) value) →
          passed (accepts (nonterminal depth) (form name)) tokens = some after →
            reads (handle (nonterminal depth) path gathered) scope ⟨tokens, none⟩ =
              some (result, ⟨after, none⟩) → fine result

section Frame

variable {σ : Type} {handle : Nested → SyntaxTree → σ → Reader σ} {form : String → Form}
  {fine : σ → Prop} {depth : Nat} {nested : Nested} {gathered : σ}

theorem accepted_of_not_word
    (other : ∀ text line whole rest, tokens = .token .ident text line whole :: rest →
      Ahead.punct "::" rest = true) : accepted nested form tokens = none := by
  unfold accepted splitArgument
  split
  · rename_i text line whole rest
    obtain ⟨separatorLine, separatorWhole, further, rfl, -⟩ :=
      exists_of_separator (other _ _ _ _ rfl)
    split
    · rfl
    · show (if _ ∧ ¬Astray _ then _ else none) = none
      rw [if_neg]
      exact fun both => both.2 ⟨List.cons_ne_nil _ _, rfl⟩
  · rfl

theorem accepted_of_keyword {text : String} {line : Nat}
    {whole : isWhole (TokenKind.ident == .joined) text = true} {rest : List SyntaxTree}
    (keyword : Ahead.keywords.contains text = true) :
    accepted nested form (.token .ident text line whole :: rest) = none := by
  rw [accepted, splitArgument, if_pos keyword, Option.bind_none]

theorem splitArgument_of_word {text : String} {line : Nat}
    {whole : isWhole (TokenKind.ident == .joined) text = true} {rest : List SyntaxTree}
    (isName : ¬Ahead.keywords.contains text = true) :
    splitArgument (.token .ident text line whole :: rest) =
      (splitAfterName rest).map fun split => (⟨text, split.1⟩, split.2) := by
  rw [splitArgument, if_neg isName]

theorem accepted_of_word {text : String} {line : Nat}
    {whole : isWhole (TokenKind.ident == .joined) text = true} {rest : List SyntaxTree}
    (isName : ¬Ahead.keywords.contains text = true) :
    accepted nested form (.token .ident text line whole :: rest) =
      passed (accepts nested (form text)) rest := by
  rw [accepted, splitArgument_of_word isName, passed, Option.bind_map]
  rfl

/-- Discovery comes out after an argument exactly if the declaration attribute accepts it and an
argument may end there. -/
theorem comes_argument (handles : Handles handle form fine) (deep : 16 ≤ depth)
    (fineSoFar : fine gathered)
    (settled : ∀ argument after, splitArgument tokens = some (argument, after) →
      Settled (nonterminal depth) (form argument.name) argument.value) :
    Comes
        (exit (argumentPath >>= fun path => handle (nonterminal depth) path gathered) scope tokens)
        (accepted (nonterminal depth) form tokens) ∧
      ∀ after result, accepted (nonterminal depth) form tokens = some after →
        reads (argumentPath >>= fun path => handle (nonterminal depth) path gathered) scope
          ⟨tokens, none⟩ = some (result, ⟨after, none⟩) → fine result := by
  -- Only a word by itself can name an argument. A longer path is read by discovery and then refused
  -- as a name, while the declaration attribute stops behind its first word.
  by_cases alone : ∃ text line whole rest, tokens = .token .ident text line whole :: rest ∧
      Ahead.punct "::" rest = false
  · obtain ⟨text, line, whole, rest, rfl, alone⟩ := alone
    have handled : reads (argumentPath >>= fun path => handle (nonterminal depth) path gathered)
        scope ⟨.token .ident text line whole :: rest, none⟩ =
          reads (handle (nonterminal depth)
            (.node .path [.node .segment [.token .ident text line whole]]) gathered) scope
              ⟨rest, none⟩ := by
      rw [reads_bind, reads_argumentPath_of_word alone]
      rfl
    have skimmed : (reads (handle (nonterminal depth)
        (.node .path [.node .segment [.token .ident text line whole]]) gathered) scope
          ⟨rest, none⟩).map (·.2) =
        (reads (skim (nonterminal depth) (form text)) scope ⟨rest, none⟩).map (·.2) :=
      handles.named rfl
    rw [exit, handled, skimmed]
    by_cases keyword : Ahead.keywords.contains text = true
    · rw [accepted_of_keyword keyword, handles.keyword keyword]
      exact ⟨comes_none, fun _ _ impossible => by cases impossible⟩
    · rw [accepted_of_word keyword]
      have settled (value : ArgumentValue) (after : List SyntaxTree)
          (split : splitAfterName rest = some (value, after)) :
          Settled (nonterminal depth) (form text) value :=
        settled ⟨text, value⟩ after (by rw [splitArgument_of_word keyword, split]; rfl)
      exact ⟨comes_skim deep settled, fun after result passes read =>
        handles.keeps rfl fineSoFar settled passes read⟩
  · have other (text : String) (line : Nat)
        (whole : isWhole (TokenKind.ident == .joined) text = true) (rest : List SyntaxTree)
        (same : tokens = .token .ident text line whole :: rest) :
        Ahead.punct "::" rest = true := by
      cases separator : Ahead.punct "::" rest with
      | true => rfl
      | false => exact absurd ⟨text, line, whole, rest, same, separator⟩ alone
    rw [accepted_of_not_word other]
    refine ⟨?_, fun _ _ impossible => by cases impossible⟩
    rw [exit, reads_bind]
    cases read : reads argumentPath scope ⟨tokens, none⟩ with
    | none => exact comes_none
    | some step =>
        rw [Option.bind_some, handles.unnamed (lonePathName?_of_reads other read)]
        exact comes_none

end Frame

end Arguments

/-! ## Modules and services -/

section Onward

variable (nested : Nested) [OnwardForms nested] (path : SyntaxTree)

instance onward_argumentName : Onward (argumentName path) := by
  unfold argumentName refuseArgument
  split <;> infer_instance

instance onward_valueSign : Onward valueSign := by
  unfold valueSign
  infer_instance

instance onward_truthValue : Onward truthValue := by
  unfold truthValue
  infer_instance

instance onward_flagValue : Onward flagValue := by
  unfold flagValue
  infer_instance

instance onward_stringValueOf : Onward stringValueOf := by
  unfold stringValueOf
  infer_instance

instance onward_verbValue : Onward verbValue := by
  unfold verbValue
  refine .bind inferInstance fun _ => .bind inferInstance fun found => ?_
  dsimp only
  split <;> infer_instance

instance onward_pathList : Onward pathList := by
  unfold pathList
  infer_instance

instance onward_integerValue : Onward (integerValue nested) := by
  unfold integerValue
  refine .bind inferInstance fun _ => .bind inferInstance fun _ => .bind inferInstance fun value =>
    ?_
  dsimp only
  split
  · split
    · split <;> infer_instance
    · infer_instance
  · infer_instance

instance onward_moduleArgument (gathered : ModuleArguments) :
    Onward (moduleArgument nested path gathered) := by
  unfold moduleArgument refuseArgument
  infer_instance

instance onward_serviceArgument (gathered : ServiceArguments) :
    Onward (serviceArgument nested path gathered) := by
  unfold serviceArgument refuseArgument
  refine .bind inferInstance fun name => ?_
  split
  · refine .bind inferInstance fun _ => .bind inferInstance fun _ => .bind inferInstance fun type =>
      ?_
    split <;> infer_instance
  · infer_instance

end Onward

theorem moduleHandles : Handles moduleArgument moduleForm fun _ => True where
  named known := reads_moduleArgument _ known _
  unnamed unknown := by
    rw [moduleArgument, reads_bind, reads_argumentName_of_none unknown]
    rfl
  keyword {name} keyword := by
    have names : ∀ name ∈ moduleNames, Ahead.keywords.contains name = false := by decide
    refine moduleForm_of_not_mem fun known => ?_
    rw [names name known] at keyword
    cases keyword
  onward nested _ path gathered := onward_moduleArgument nested path gathered
  keeps _ _ _ _ _ := trivial

/-- Whether the service type that has been read leaves all its arguments open. -/
def OpenService (given : ServiceArguments) : Prop :=
  ∀ path, given.service = some path → (openArity path).isOk = true

section Services

variable {nested : Nested} {path : SyntaxTree} {name : String} {scope : Grammar.Scope}
  {state last : ReaderState} {gathered given : ServiceArguments}

theorem service_of_map {α : Type} {reader : Reader α} {result : α → ServiceArguments}
    (read : reads (reader >>= fun value => pure (result value)) scope state = some (given, last))
    (keeps : ∀ value, (result value).service = gathered.service) :
    given.service = gathered.service := by
  obtain ⟨found, _, -, same⟩ := exists_of_reads_bind read
  obtain ⟨rfl, -⟩ := Prod.mk.inj (Option.some.inj same)
  exact keeps found

theorem of_reads_ite {α : Type} {conclusion condition : Prop} [Decidable condition]
    {left right : Reader α} {step : α × ReaderState}
    (read : reads (if condition then left else right) scope state = some step)
    (here : condition → reads left scope state = some step → conclusion)
    (later : reads right scope state = some step → conclusion) : conclusion := by
  rw [reads_ite] at read
  split at read
  · exact here ‹_› read
  · exact later read

/-- An argument of a service leaves the service type as it was, or is the type that is read. -/
theorem service_of_reads (known : path.lonePathName? = some name)
    (read : reads (serviceArgument nested path gathered) scope state = some (given, last)) :
    given.service = gathered.service ∨
      name = "service" ∧ ∃ type found, type.typePath? = some found ∧ given.service = some found ∧
        reads (valueSign >>= fun _ => nested (.type true)) scope state = some (type, last) := by
  rw [serviceArgument, reads_bind, reads_argumentName known, Option.bind_some] at read
  dsimp only at read
  refine of_reads_ite read (fun isService read => .inr ⟨eq_of_beq isService, ?_⟩)
    fun read => .inl ?_
  · obtain ⟨_, _, signed, read⟩ := exists_of_reads_bind read
    rw [reads_bind, reads_lineAhead, Option.bind_some] at read
    obtain ⟨type, after, typed, read⟩ := exists_of_reads_bind read
    cases named : type.typePath? with
    | none =>
        rw [named] at read
        cases read
    | some found =>
        rw [named] at read
        obtain ⟨rfl, rfl⟩ := Prod.mk.inj (Option.some.inj read)
        exact ⟨type, found, named, rfl, by rw [reads_bind, signed]; exact typed⟩
  refine of_reads_ite read (fun _ read => ?_) fun read => ?_
  · obtain ⟨_, _, -, read⟩ := exists_of_reads_bind read
    exact service_of_map read fun _ => rfl
  refine of_reads_ite read (fun _ read => ?_) fun read => ?_
  · obtain ⟨_, _, -, read⟩ := exists_of_reads_bind read
    exact service_of_map read fun _ => rfl
  refine of_reads_ite read (fun _ read => service_of_map read fun _ => rfl) fun read => ?_
  refine of_reads_ite read (fun _ read => service_of_map read fun _ => rfl) fun read => ?_
  refine of_reads_ite read (fun _ read => ?_) fun read => ?_
  · obtain ⟨_, _, -, read⟩ := exists_of_reads_bind read
    exact service_of_map read fun _ => rfl
  · cases read

theorem exists_of_passed {check : ArgumentValue → Bool} {tokens after : List SyntaxTree}
    (passes : passed check tokens = some after) :
    ∃ value, splitAfterName tokens = some (value, after) ∧ check value = true ∧ ¬Astray after := by
  obtain ⟨⟨value, rest⟩, split, found⟩ := Option.bind_eq_some_iff.mp passes
  obtain ⟨⟨good, ends⟩, same⟩ := Option.ite_none_right_eq_some.mp found
  obtain rfl := Option.some.inj same
  exact ⟨value, split, good, ends⟩

/-- A service type that is read behind an equals sign is the one that its tokens make. -/
theorem typed_of_passed {depth : Nat} {tokens after : List SyntaxTree} {type : SyntaxTree}
    (settled : ∀ value after, splitAfterName tokens = some (value, after) →
      Settled (nonterminal depth) .type value)
    (passes : passed (accepts (nonterminal depth) .type) tokens = some after)
    (read : reads (valueSign >>= fun _ => typeForm (nonterminal depth)) scope ⟨tokens, none⟩ =
      some (type, ⟨after, none⟩)) :
    namesOpenType type = true := by
  obtain ⟨value, split, good, ends⟩ := exists_of_passed passes
  cases value with
  | flag => cases good
  | listed body => cases good
  | assigned found =>
      obtain ⟨sign, whole⟩ := sign_of_splitAfterName split
      rw [reads_valueSign _ sign, whole] at read
      exact (settled _ _ split).2 type (readAll_of_reads ends read)

theorem serviceHandles : Handles serviceArgument serviceForm OpenService where
  named known := reads_serviceArgument _ known _
  unnamed unknown := by
    rw [serviceArgument, reads_bind, reads_argumentName_of_none unknown]
    rfl
  keyword {name} keyword := by
    have names : ∀ name ∈ serviceNames, Ahead.keywords.contains name = false := by decide
    refine serviceForm_of_not_mem fun known => ?_
    rw [names name known] at keyword
    cases keyword
  onward nested _ path gathered := onward_serviceArgument nested path gathered
  keeps {depth path name gathered scope tokens after result}
      known fineSoFar settled passes read := by
    intro service names
    obtain kept | ⟨rfl, type, found, typed, same, read⟩ := service_of_reads known read
    · exact fineSoFar service (kept ▸ names)
    · have isOpen := typed_of_passed settled passes read
      obtain rfl := Option.some.inj (same.symm.trans names)
      rwa [namesOpenType, typed, Option.any_some] at isOpen

end Services

end Wiring.Expansion
