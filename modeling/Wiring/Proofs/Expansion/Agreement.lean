import Wiring.Proofs.Expansion.Handlers
import Wiring.Proofs.Source.Declarations

/-!
# Declaration attributes and discovery

Whether a declaration attribute hands its item back agrees with whether discovery accepts what it
declares, as long as each argument is settled. See `expansion_agrees`.
-/

set_option autoImplicit false

namespace Wiring.Expansion

open Wiring.Grammar
open Wiring.Grammar.Reader
open Wiring.Source hiding Scope

/-! ## All arguments -/

section Lists

variable {scope : Grammar.Scope} {tokens after : List SyntaxTree} {argument : Argument}
  {fuel depth : Nat} {nested : Nested} {form : String → Form}

theorem splitAfterName_suffix {value : ArgumentValue}
    (split : splitAfterName tokens = some (value, after)) : after <:+ tokens := by
  cases value with
  | assigned found =>
      have whole := (sign_of_splitAfterName split).2
      exact (whole ▸ List.suffix_append found after).trans (List.drop_suffix 1 tokens)
  | listed body =>
      obtain ⟨_, _, _, rest, rfl⟩ := exists_of_group (group_of_splitAfterName split)
      obtain ⟨-, rfl⟩ := Prod.mk.inj (Option.some.inj split)
      exact List.suffix_cons ..
  | flag =>
      have missing : ¬Ahead.punct "=" tokens = true := by
        intro sign
        unfold splitAfterName at split
        rw [if_pos sign] at split
        split at split <;> cases split
      obtain ⟨_, _, _, _, _, listed⟩ | ⟨_, alone⟩ := splitAfterName_of_not_sign missing
      · cases listed.symm.trans split
      · obtain ⟨-, rfl⟩ := Prod.mk.inj (Option.some.inj (alone.symm.trans split))
        exact List.suffix_refl _

theorem splitArgument_suffix (split : splitArgument tokens = some (argument, after)) :
    after <:+ tokens := by
  unfold splitArgument at split
  split at split
  · split at split
    · cases split
    · obtain ⟨⟨value, rest⟩, found, same⟩ := Option.map_eq_some_iff.mp split
      obtain ⟨-, rfl⟩ := Prod.mk.inj same
      exact (splitAfterName_suffix found).trans (List.suffix_cons ..)
  · cases split

theorem accepted_suffix (ends : accepted nested form tokens = some after) : after <:+ tokens := by
  obtain ⟨⟨argument, rest⟩, split, found⟩ := Option.bind_eq_some_iff.mp ends
  obtain ⟨-, same⟩ := Option.ite_none_right_eq_some.mp found
  obtain rfl := Option.some.inj same
  exact splitArgument_suffix split

theorem splitArguments_of_some (split : splitArgument tokens = some (argument, after)) :
    splitArguments (fuel + 1) tokens =
      if after.isEmpty = true then ([argument], true)
      else if Ahead.punct "," after = true then
        (argument :: (splitArguments fuel (after.drop 1)).1, (splitArguments fuel (after.drop 1)).2)
      else ([argument], false) := by
  have something : tokens.isEmpty = false := by
    cases tokens with
    | nil => cases split
    | cons tree rest => rfl
  rw [splitArguments, something, if_neg Bool.false_ne_true, split]

/-- Arguments reach the end of their tokens, each accepted and where it may end, exactly if they are
made of arguments that are all accepted. -/
theorem listEnds_accepted (enough : tokens.length < fuel) (something : tokens.isEmpty = false) :
    listEnds (accepted nested form) fuel tokens =
      ((splitArguments fuel tokens).2 &&
        (splitArguments fuel tokens).1.all fun argument =>
          accepts nested (form argument.name) argument.value) := by
  -- On the bound. The arguments are split in full before any is checked, so a refused one is
  -- looked for among those that have been split.
  induction fuel generalizing tokens with
  | zero => cases enough
  | succ fuel ih =>
      cases split : splitArgument tokens with
      | none =>
          have nothing : accepted nested form tokens = none := by
            rw [accepted, split, Option.bind_none]
          rw [listEnds_of_none nothing, splitArguments, something, if_neg Bool.false_ne_true, split]
          rfl
      | some found =>
          obtain ⟨argument, after⟩ := found
          have one : accepted nested form tokens =
              if accepts nested (form argument.name) argument.value = true ∧ ¬Astray after then
                some after
              else none := by
            rw [accepted, split, Option.bind_some]
          rw [splitArguments_of_some split]
          by_cases good : accepts nested (form argument.name) argument.value = true
          · obtain rfl | astray | comma := nil_or_astray_or_comma after
            · rw [if_pos ⟨good, fun astray => astray.1 rfl⟩] at one
              rw [listEnds_of_nil one]
              simp [good]
            · rw [if_neg (fun both => both.2 astray)] at one
              rw [listEnds_of_none one, if_neg (fun empty => astray.1 (List.isEmpty_iff.mp empty)),
                if_neg (by rw [astray.2]; exact Bool.false_ne_true)]
              rfl
            · rw [if_pos ⟨good, fun astray => by rw [astray.2] at comma; cases comma⟩] at one
              rw [listEnds_of_comma one comma, not_nil_of_comma comma, if_neg Bool.false_ne_true,
                if_pos comma]
              have shorter := rest_of_suffix (splitArgument_suffix split) comma enough
              cases last : (after.drop 1).isEmpty with
              | true =>
                  obtain ⟨further, rfl⟩ := Nat.exists_eq_succ_of_ne_zero (Nat.ne_zero_of_lt shorter)
                  rw [List.isEmpty_iff.mp last, splitArguments]
                  simp [good]
              | false =>
                  rw [Bool.false_or, ih shorter last, List.all_cons, good, Bool.true_and]
          · rw [if_neg (fun both => good both.1)] at one
            rw [listEnds_of_none one]
            split
            · simp [good]
            · split <;> simp [good]

/-- Whether the arguments that some tokens write are settled. -/
def Ready (nested : Nested) (form : String → Form) (fuel : Nat) (tokens : List SyntaxTree) : Prop :=
  tokens.length < fuel ∧
    ∀ argument ∈ (splitArguments fuel tokens).1, Settled nested (form argument.name) argument.value

theorem Ready.first (ready : Ready nested form (fuel + 1) tokens)
    (split : splitArgument tokens = some (argument, after)) :
    Settled nested (form argument.name) argument.value := by
  refine ready.2 argument ?_
  rw [splitArguments_of_some split]
  split
  · exact List.mem_cons_self
  · split <;> exact List.mem_cons_self

theorem Ready.later (ready : Ready nested form (fuel + 1) tokens)
    (ends : accepted nested form tokens = some after) (comma : Ahead.punct "," after = true) :
    Ready nested form fuel (after.drop 1) := by
  refine ⟨rest_of_suffix (accepted_suffix ends) comma ready.1,
    fun argument written => ready.2 argument ?_⟩
  obtain ⟨⟨first, rest⟩, split, found⟩ := Option.bind_eq_some_iff.mp ends
  obtain ⟨-, same⟩ := Option.ite_none_right_eq_some.mp found
  obtain rfl := Option.some.inj same
  rw [splitArguments_of_some split, not_nil_of_comma comma, if_neg Bool.false_ne_true, if_pos comma]
  exact List.mem_cons_of_mem _ written

def writtenArguments (tokens : List SyntaxTree) : List Argument :=
  (splitArguments (tokens.length + 1) tokens).1

/-- Whether tokens are arguments that a declaration attribute accepts. -/
def checks (form : String → Form) (tokens : List SyntaxTree) : Bool :=
  (splitArguments (tokens.length + 1) tokens).2 &&
    (writtenArguments tokens).all fun argument =>
      accepts (nestedFor tokens) (form argument.name) argument.value

/-- Reads named arguments; there may be none. -/
def maybeArguments {σ : Type} (handle : Nested → SyntaxTree → σ → Reader σ) (start : σ)
    (nested : Nested) : Reader σ := do
  if ← isEmpty then return start else argumentList (handle nested) start

theorem reads_maybeArguments {σ : Type} {handle : Nested → SyntaxTree → σ → Reader σ} {start : σ}
    {nested : Nested} :
    reads (maybeArguments handle start nested) scope ⟨tokens, none⟩ =
      if tokens.isEmpty = true then some (start, ⟨tokens, none⟩)
      else reads (argumentList.loop (handle nested) (tokens.length + 1) start) scope
        ⟨tokens, none⟩ := by
  rw [maybeArguments, reads_bind, reads_isEmpty, Option.bind_some, reads_ite]
  dsimp only
  split
  · rfl
  · rw [argumentList, reads_bind, reads_ahead]
    rfl

/-- Discovery reads settled arguments to their end exactly if the declaration attribute accepts
them. -/
theorem parse_arguments {σ : Type} {handle : Nested → SyntaxTree → σ → Reader σ} {start : σ}
    {fine : σ → Prop} (handles : Handles handle form fine) (fineSoFar : fine start)
    (settled : ∀ argument ∈ writtenArguments tokens,
      Settled (nestedFor tokens) (form argument.name) argument.value) :
    if checks form tokens = true then
      ∃ given, fine given ∧ parseTokensIn (maybeArguments handle start) scope tokens = .ok given
    else ∀ given, parseTokensIn (maybeArguments handle start) scope tokens ≠ .ok given := by
  have parsed (given : σ) : parseTokensIn (maybeArguments handle start) scope tokens = .ok given ↔
      reads (maybeArguments handle start (nestedFor tokens)) scope ⟨tokens, none⟩ =
        some (given, ⟨[], none⟩) := run_eq_ok_iff
  simp only [parsed, reads_maybeArguments, ne_eq]
  cases something : tokens.isEmpty with
  | true =>
      obtain rfl := List.isEmpty_iff.mp something
      rw [if_pos (show checks form [] = true from rfl)]
      exact ⟨start, fineSoFar, rfl⟩
  | false =>
      have deep : 16 ≤ depthFor tokens := by
        unfold depthFor
        omega
      have onward := handles.onward (nonterminal (depthFor tokens))
      have read := reads_argumentList_loop scope
        (Ready (nonterminal (depthFor tokens)) form) fine
        (fun fuel tokens gathered ready fineSoFar =>
          comes_argument handles deep fineSoFar fun argument after split => ready.first split)
        (fun fuel tokens after ready ends comma _ => ready.later ends comma)
        (fun tokens ready => Nat.not_lt_zero _ ready.1) (tokens.length + 1) tokens start
        ⟨Nat.lt_succ_self _, settled⟩ fineSoFar
      rw [listEnds_accepted (Nat.lt_succ_self _) something] at read
      simp only [Bool.false_eq_true, if_false]
      show if checks form tokens = true then _ else _
      split at read
      · rename_i passes
        rw [if_pos (show checks form tokens = true from passes)]
        exact read
      · rename_i fails
        rw [if_neg (show ¬checks form tokens = true from fails)]
        exact read

end Lists

/-! ## Attributes -/

/-- Whether an attribute has the given tokens as its arguments. An attribute alone has none. -/
def Carries (marker : SyntaxTree) (arguments : List SyntaxTree) : Prop :=
  (∃ path, marker.attributeBody? = some (.node .metaPath [path]) ∧ arguments = []) ∨
    ∃ path delimiter openLine closeLine, marker.attributeBody? =
      some (.node .metaList [path, .group delimiter arguments openLine closeLine])

def argumentsIn {σ : Type} (handle : Nested → SyntaxTree → σ → Reader σ) (start : σ)
    (marker : SyntaxTree) : Except SyntaxError σ :=
  match marker.attributeBody? with
  | some (.node .metaPath _) => .ok start
  | _ => parseArgumentList marker handle start

section Discovery

variable {marker : SyntaxTree} {arguments : List SyntaxTree}

theorem argumentsIn_of_carries {σ : Type} {handle : Nested → SyntaxTree → σ → Reader σ}
    {fine : σ → Prop} {form : String → Form} (handles : Handles handle form fine) (start : σ)
    (fineSoFar : fine start) (carries : Carries marker arguments)
    (settled : ∀ argument ∈ writtenArguments arguments,
      Settled (nestedFor arguments) (form argument.name) argument.value) :
    if checks form arguments = true then
      ∃ given, fine given ∧ argumentsIn handle start marker = .ok given
    else ∀ given, argumentsIn handle start marker ≠ .ok given := by
  obtain ⟨path, body, rfl⟩ | ⟨path, delimiter, openLine, closeLine, body⟩ := carries
  · rw [if_pos (show checks form [] = true from rfl), argumentsIn, body]
    exact ⟨start, fineSoFar, rfl⟩
  · have read : argumentsIn handle start marker =
        parseTokensIn (maybeArguments handle start) ⟨closeLine, none⟩ arguments := by
      rw [argumentsIn, body, parseArgumentList, parseArguments, body]
      rfl
    rw [read]
    exact parse_arguments handles fineSoFar settled

theorem exists_moduleArguments_iff (carries : Carries marker arguments)
    (settled : ∀ argument ∈ writtenArguments arguments,
      Settled (nestedFor arguments) (moduleForm argument.name) argument.value) :
    (∃ given, moduleArguments marker = .ok given) ↔ checks moduleForm arguments = true := by
  have read := argumentsIn_of_carries moduleHandles .none trivial carries settled
  split at read
  · rename_i passes
    obtain ⟨given, -, found⟩ := read
    exact iff_of_true ⟨given, found⟩ passes
  · rename_i fails
    exact iff_of_false (fun ⟨given, found⟩ => read given found) fails

theorem exists_serviceArguments_iff (carries : Carries marker arguments)
    (settled : ∀ argument ∈ writtenArguments arguments,
      Settled (nestedFor arguments) (serviceForm argument.name) argument.value) :
    (∃ given, serviceArguments marker = .ok given ∧ OpenService given) ↔
      checks serviceForm arguments = true := by
  have read := argumentsIn_of_carries serviceHandles .none
    (fun path impossible => by cases impossible) carries settled
  split at read
  · rename_i passes
    obtain ⟨given, isOpen, found⟩ := read
    exact iff_of_true ⟨given, found, isOpen⟩ passes
  · rename_i fails
    exact iff_of_false (fun ⟨given, found, _⟩ => read given found) fails

end Discovery

/-! ## Items that are handed back -/

def HandsBack (expanded : List SyntaxTree) (item : SyntaxTree) : Prop :=
  expanded = [item] ∨ expanded = deriveEquality ++ [item]

section Expansions

variable {arguments tokens : List SyntaxTree} {item : SyntaxTree}

theorem not_handsBack_compileError (message : String) :
    ¬HandsBack (compileError message ++ [item]) item := by
  have words : (code ":: core :: compile_error !").length = 5 := by decide +kernel
  have length : (compileError message ++ [item]).length = 7 := by
    rw [List.length_append, compileError, List.length_append, words]
    rfl
  rintro (same | same)
  · rw [same] at length
    cases length
  · have short : (deriveEquality ++ [item]).length = 3 := rfl
    rw [← same, length] at short
    cases short

theorem argumentsOf_bind_isOk {α : Type} (next : List Argument → Except String α) :
    (argumentsOf tokens >>= next).isOk =
      ((splitArguments (tokens.length + 1) tokens).2 && (next (writtenArguments tokens)).isOk) := by
  cases given : argumentsOf tokens with
  | ok written =>
      rw [writtenArguments, argumentsOf_eq_ok_iff.mp given, Bool.true_and]
      rfl
  | error mistake =>
      cases ended : (splitArguments (tokens.length + 1) tokens).2 with
      | false => rfl
      | true =>
          rw [argumentsOf_eq_ok_iff.mpr (Prod.ext rfl ended)] at given
          cases given

theorem checkAll_eq_checks {nested : Nested} {check : Argument → Except String Unit}
    {form : String → Form} (checked : ∀ argument, (check argument).isOk =
      (checkForm nested (form argument.name) argument).isOk) (written : List Argument) :
    (checkAll check written).isOk =
      written.all fun argument => accepts nested (form argument.name) argument.value := by
  rw [checkAll_isOk]
  congr 1
  funext argument
  rw [checked, checkForm_isOk]

theorem checkModule_isOk :
    (checkModule arguments item).isOk =
      (item.hasKind .structItem && checks moduleForm arguments) := by
  rw [checkModule, argumentsOf_bind_isOk, checks,
    ← checkAll_eq_checks (checkModuleArgument_isOk (nestedFor arguments))]
  cases item.hasKind .structItem with
  | false => exact Bool.and_false _
  | true =>
      rw [if_pos rfl, Bool.true_and]
      cases checkAll (checkModuleArgument (nestedFor arguments)) (writtenArguments arguments) with
      | ok asked => rfl
      | error mistake => rfl

theorem checkService_isOk (lifetime : Lifetime) :
    (checkService lifetime arguments item).isOk =
      ((item.hasKind .structItem || item.hasKind .enumItem) &&
        checks serviceForm arguments) := by
  rw [checkService, argumentsOf_bind_isOk, checks,
    ← checkAll_eq_checks (checkServiceArgument_isOk (nestedFor arguments))]
  cases item.hasKind .structItem || item.hasKind .enumItem with
  | false => exact Bool.and_false _
  | true => rw [if_pos rfl, Bool.true_and]

/-- A module attribute hands a struct back exactly if its arguments pass, and nothing else. -/
theorem handsBack_expandModule_iff (parsed : parseTokens itemForm tokens = .ok item) :
    HandsBack (expandModule arguments tokens) item ↔
      item.hasKind .structItem = true ∧ checks moduleForm arguments = true := by
  rw [← Bool.and_eq_true, ← checkModule_isOk, expandModule, withItem, parsed]
  dsimp only
  cases checkModule arguments item with
  | error mistake => exact iff_of_false (not_handsBack_compileError mistake) Bool.false_ne_true
  | ok asked =>
      refine iff_of_true ?_ rfl
      dsimp only
      split
      · exact .inr rfl
      · exact .inl rfl

/-- A service attribute hands a struct or an enum back exactly if its arguments pass, and nothing
else. -/
theorem handsBack_expandService_iff (lifetime : Lifetime)
    (parsed : parseTokens itemForm tokens = .ok item) :
    HandsBack (expandService lifetime arguments tokens) item ↔
      (item.hasKind .structItem || item.hasKind .enumItem) = true ∧
        checks serviceForm arguments = true := by
  rw [← Bool.and_eq_true, ← checkService_isOk lifetime, expandService, withItem, parsed]
  dsimp only
  cases checkService lifetime arguments item with
  | error mistake => exact iff_of_false (not_handsBack_compileError mistake) Bool.false_ne_true
  | ok _ => exact iff_of_true (.inl rfl) rfl

end Expansions

/-! ## Agreement -/

/-- Whether an attribute that discovery has found stands on the item and has the given tokens as its
arguments. -/
structure Declares (item : SyntaxTree) (arguments : List SyntaxTree) (declared : DeclaredItem)
    (found : FoundAttribute) : Prop where
  carries : Carries found.tree arguments
  parameters : declared.typeParameters = item.typeParameterCount

/-- The attribute that macros see and the declaration that discovery sees. A module attribute does
not look at type parameters, and discovery builds modules of enums. -/
structure Agrees (index : Index) (settings : Settings) (file : FileFacts)
    (arguments tokens : List SyntaxTree) (item : SyntaxTree) (declared : DeclaredItem)
    (found : FoundAttribute) : Prop where
  module : (∀ argument ∈ writtenArguments arguments,
      Settled (nestedFor arguments) (moduleForm argument.name) argument.value) →
    (HandsBack (expandModule arguments tokens) item ∧ item.typeParameterCount = 0 ↔
      item.hasKind .structItem = true ∧
        ∃ module, moduleOf index settings file declared found = .ok module)
  service : (∀ argument ∈ writtenArguments arguments,
      Settled (nestedFor arguments) (serviceForm argument.name) argument.value) →
    (item.hasKind .structItem || item.hasKind .enumItem) = true → ∀ lifetime,
      (HandsBack (expandService lifetime arguments tokens) item ↔
        ∃ registration, registrationOf index file declared lifetime found = .ok registration)

/-- For settled arguments a declaration attribute hands its item back exactly if discovery accepts
what it declares. -/
theorem expansion_agrees (index : Index) (settings : Settings) (file : FileFacts)
    {arguments tokens : List SyntaxTree} {item : SyntaxTree} {declared : DeclaredItem}
    {found : FoundAttribute} (parsed : parseTokens itemForm tokens = .ok item)
    (declares : Declares item arguments declared found) :
    Agrees index settings file arguments tokens item declared found where
  module settled := by
    rw [handsBack_expandModule_iff parsed, exists_moduleOf_iff, declares.parameters,
      exists_moduleArguments_iff declares.carries settled]
    tauto
  service settled kind lifetime := by
    have isOpen := exists_serviceArguments_iff declares.carries settled
    rw [handsBack_expandService_iff lifetime parsed, exists_registrationOf_iff, kind]
    exact (and_iff_right rfl).trans isOpen.symm

/-! ## A store -/

section Store

def tokensOf (text : String) : List SyntaxTree :=
  (lex text).toOption.getD []

def marked (name : String) (arguments : List SyntaxTree) : SyntaxTree :=
  let path := SyntaxTree.node .path [.node .segment (code name)]
  .node .attribute (code "#" ++ [inBrackets [.node .metaList [path, inParentheses arguments]]])

theorem carries_marked (name : String) (arguments : List SyntaxTree) :
    Carries (marked name arguments) arguments :=
  .inr ⟨_, _, _, _, rfl⟩

def storeDeclared : DeclaredItem :=
  ⟨0, "Store", 1, 0, [], []⟩

theorem exists_store :
    ∃ item, parseTokens itemForm (tokensOf "pub struct Store;") = .ok item ∧
      item.hasKind .structItem = true ∧ item.typeParameterCount = 0 := by
  have fine : (parseTokens itemForm (tokensOf "pub struct Store;")).toOption.any (fun item =>
      item.hasKind .structItem && item.typeParameterCount == 0) = true := by decide +kernel
  cases parsed : parseTokens itemForm (tokensOf "pub struct Store;") with
  | error mistake =>
      rw [parsed] at fine
      cases fine
  | ok item =>
      rw [parsed] at fine
      obtain ⟨kind, plain⟩ := Bool.and_eq_true_iff.mp fine
      exact ⟨item, rfl, kind, eq_of_beq plain⟩

def storeArguments : List SyntaxTree :=
  tokensOf "registration = \"try\", feature_order = -3, only_realm, features(a::Cache),
    depends_on(crate::http::Http, Tax(19, rounding = true))"

def keptArguments : List SyntaxTree :=
  tokensOf "service = crate::Cache, key = \"disk\", realm = Disk, cross_wire"

theorem expansion_agrees_store :
    ∃ item, parseTokens itemForm (tokensOf "pub struct Store;") = .ok item ∧
      (HandsBack (expandModule storeArguments (tokensOf "pub struct Store;")) item ∧
        ∃ module, moduleOf (.ofFiles []) .default (.empty "src/store.rs" "crate::store")
          storeDeclared ⟨.module, marked "module" storeArguments, 1⟩ = .ok module) ∧
      (HandsBack (expandService .singleton keptArguments (tokensOf "pub struct Store;")) item ∧
        ∃ registration, registrationOf (.ofFiles []) (.empty "src/store.rs" "crate::store")
          storeDeclared .singleton ⟨.service .singleton, marked "singleton" keptArguments, 1⟩ =
            .ok registration) := by
  obtain ⟨item, parsed, kind, plain⟩ := exists_store
  refine ⟨item, parsed, ?module, ?service⟩
  case module =>
    have declares : Declares item storeArguments storeDeclared
        ⟨.module, marked "module" storeArguments, 1⟩ := ⟨carries_marked .., plain.symm⟩
    have settled : ((writtenArguments storeArguments).all fun argument =>
        isSettled (nestedFor storeArguments) (moduleForm argument.name) argument.value) = true := by
      decide +kernel
    have agrees := (expansion_agrees (.ofFiles []) .default
      (.empty "src/store.rs" "crate::store") parsed declares).module
        fun argument written =>
          settled_of_isSettled (List.all_eq_true.mp settled argument written)
    have handed := (handsBack_expandModule_iff parsed).mpr
      ⟨kind, (by decide +kernel : checks moduleForm storeArguments = true)⟩
    exact ⟨handed, (agrees.mp ⟨handed, plain⟩).2⟩
  case service =>
    have declares : Declares item keptArguments storeDeclared
        ⟨.service .singleton, marked "singleton" keptArguments, 1⟩ :=
      ⟨carries_marked .., plain.symm⟩
    have settled : ((writtenArguments keptArguments).all fun argument =>
        isSettled (nestedFor keptArguments) (serviceForm argument.name) argument.value) = true := by
      decide +kernel
    have kind : (item.hasKind .structItem || item.hasKind .enumItem) = true := by
      rw [kind, Bool.true_or]
    have agrees := (expansion_agrees (.ofFiles []) .default
      (.empty "src/store.rs" "crate::store") parsed declares).service
        (fun argument written =>
          settled_of_isSettled (List.all_eq_true.mp settled argument written)) kind .singleton
    have handed := (handsBack_expandService_iff .singleton parsed).mpr
      ⟨kind, (by decide +kernel : checks serviceForm keptArguments = true)⟩
    exact ⟨handed, agrees.mp handed⟩

/-- A feature order that is no integer passes at the declaration, and discovery refuses it. -/
theorem late_order_passes :
    ∃ item, parseTokens itemForm (tokensOf "pub struct Store;") = .ok item ∧
      HandsBack (expandModule (tokensOf "feature_order = \"late\"")
        (tokensOf "pub struct Store;")) item ∧
      ¬∃ module, moduleOf (.ofFiles []) .default (.empty "src/store.rs" "crate::store")
        storeDeclared ⟨.module, marked "module" (tokensOf "feature_order = \"late\""), 1⟩ =
          .ok module := by
  obtain ⟨item, parsed, kind, -⟩ := exists_store
  have passes : checks moduleForm (tokensOf "feature_order = \"late\"") = true := by
    decide +kernel
  refine ⟨item, parsed, (handsBack_expandModule_iff parsed).mpr ⟨kind, passes⟩, ?_⟩
  rw [exists_moduleOf_iff]
  rintro ⟨-, given, read⟩
  have refused : (moduleArguments
      (marked "module" (tokensOf "feature_order = \"late\""))).isOk = false := by
    decide +kernel
  rw [read] at refused
  cases refused

end Store

end Wiring.Expansion
