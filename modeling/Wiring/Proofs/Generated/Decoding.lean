import Wiring.Generated.Registrations
import Wiring.Proofs.Generated.Decoder
import Wiring.Proofs.Outcome

/-!
# Operations in generated text

The registrations unit of a module holds its operations without loss: they can be read off its
text, whatever the module and its glue functions are.  See `decode_registrationsFile`.
-/

set_option autoImplicit false

namespace Wiring.Generated

open Wiring.Container
open Wiring.Grammar
open Wiring.Plan

/-! ## Decoders of operations -/

namespace Decoder

def named {α : Type} (table : List (String × α)) : Decoder α := do
  mark ":: wiregen :: runtime :: "
  choice table

def between (text : String) : Decoder Unit :=
  mark (" " ++ text ++ " ")

def call (name : String) : Decoder Unit :=
  named [(name ++ " (", ())]

def key : Decoder String := do
  call "TypeKey :: named"
  let text ← literal
  mark ")"
  return text

def factory : Decoder String := do
  call "FactoryRef :: new"
  let name ← literal
  skip
  return name

def implementations : List (String × Decoder Implementation) :=
  [("Implementation :: Type" ++ " (", Implementation.type <$> key),
    ("Implementation :: Forward" ++ " (", Implementation.forward <$> key),
    ("Implementation :: Factory" ++ " (", Implementation.factory <$> factory)]

def implementation : Decoder Implementation := do
  let read ← named implementations
  let found ← read
  mark ")"
  return found

def variants {α : Type} (type : String) (typeName : α → String) (all : List α) :
    List (String × α) :=
  all.map fun value => (type ++ typeName value ++ " ,", value)

def lifetimes : List (String × Lifetime) :=
  variants "Lifetime :: " Lifetime.typeName Lifetime.all

def verbs : List (String × Verb) :=
  variants "RegistrationType :: " Verb.typeName Verb.all

def keyIfAny : Decoder (Option String) := do
  if ← mark? " . with_key (" then
    let key ← literal
    mark ")"
    return some key
  return none

def registration : Decoder Registration := do
  call "ServiceRegistration :: new"
  let service ← key
  between ","
  let implementation ← implementation
  between ","
  let lifetime ← named lifetimes
  mark ")"
  let key ← keyIfAny
  return ⟨service, key, implementation, lifetime⟩

def vector {α : Type} (item : Decoder α) : Decoder (List α) := do
  mark ":: std :: vec ! ["
  list item

def single (shape : Registration → Operation) : Decoder Operation := do
  let found ← registration
  mark ")"
  return shape found

def crossWire : Decoder Operation := do
  mark ("registration :" ++ " ")
  let found ← registration
  between ", interfaces :"
  let interfaces ← vector key
  between ", verb :"
  let verb ← named verbs
  mark " \x7d"
  return .crossWire found interfaces verb

def operations : List (String × Decoder Operation) :=
  [("RegistrationOp :: " ++ "AddStandard" ++ " (", single .addStandard),
    ("RegistrationOp :: " ++ "AddKeyed" ++ " (", single .addKeyed),
    ("RegistrationOp :: " ++ "TryAdd" ++ " (", single .tryAdd),
    ("RegistrationOp :: " ++ "TryAddEnumerable" ++ " (", single .tryAddEnumerable),
    ("RegistrationOp :: " ++ "Replace" ++ " (", single .replace),
    ("RegistrationOp :: " ++ "CrossWire" ++ " \x7b ", crossWire)]

def operation : Decoder Operation := do
  let read ← named operations
  read

def functionText : String :=
  "# [doc (hidden)] pub fn __wiregen_registrations () -> " ++
    "& 'static [:: wiregen :: runtime :: RegistrationOp] "

def tableText : String :=
  "static REGISTRATIONS : " ++ lazyCode ++
    " < :: std :: vec :: Vec < :: wiregen :: runtime :: RegistrationOp > , > = " ++ lazyCode ++
    " :: new "

def unitBody : Decoder (List Operation) := do
  mark " "
  mark functionText
  mark "\x7b "
  mark tableText
  mark "(|| \x7b "
  vector operation

end Decoder

open Decoder

def decodeOperations (contents : String) : Option (List Operation) := do
  let body ← lastBrace .apart 0 contents.toList none
  let (operations, _) ← unitBody body
  return operations

/-! ## Text of calls -/

/-- A decoder reads what trees stand for off their text. -/
structure Denotes {α : Type} (decoder : Decoder α) (trees : List SyntaxTree) (value : α) :
    Prop where
  apart : Apart trees
  reads : Reads decoder (trailing trees) value

theorem reads_named {α : Type} {table : List (String × α)} (distinct : isDistinct table = true)
    {text : String} {value : α} (member : (text, value) ∈ table) :
    Reads (named table) (":: wiregen :: runtime :: " ++ text).toList value := by
  intro rest
  have chosen := reads_choice distinct member rest
  rw [String.toList_append, List.append_assoc, named, bind_eq (reads_mark _ _), chosen]

section Runtime

variable {name : String} (inert : name.toList.all isInert = true)

include inert

theorem isWholeCode_runtime : isWholeCode (":: wiregen :: runtime :: " ++ name) = true :=
  isWholeCode_of_inert (inert_append (inert_ofList (by decide)) inert)

theorem leading_runtime :
    leading (runtime name) = (":: wiregen :: runtime :: " ++ name ++ " ").toList :=
  leading_code (isWholeCode_runtime inert)

theorem trailing_call (body : List SyntaxTree) : trailing (runtime name ++ [inParentheses body]) =
    (":: wiregen :: runtime :: " ++ (name ++ " (")).toList ++ (trailing body ++ ")".toList) := by
  rw [trailing_append _ (apart_inParentheses body), leading_runtime inert, trailing_inParentheses]
  simp

theorem trailing_braced {body : List SyntaxTree} (nonempty : trailing body ≠ []) :
    trailing (runtime name ++ [inBraces body]) =
      (":: wiregen :: runtime :: " ++ (name ++ " \x7b ")).toList ++
        (trailing body ++ " \x7d".toList) := by
  rw [trailing_append _ (apart_inBraces body), leading_runtime inert, trailing_inBraces _ nonempty]
  simp

theorem trailing_named : trailing (runtime name ++ code ",") =
    (":: wiregen :: runtime :: " ++ (name ++ " ,")).toList := by
  have comma : isWholeCode "," = true := by decide
  rw [trailing_append _ (apart_code comma), leading_runtime inert, trailing_code comma]
  simp

theorem exists_trailing_runtime {trees : List SyntaxTree} (apart : Apart trees) :
    ∃ rest, trailing (runtime name ++ trees) = ':' :: rest := by
  rw [trailing_append _ apart, leading_runtime inert]
  simp

end Runtime

theorem apart_call (name : String) (body : List SyntaxTree) :
    Apart (runtime name ++ [inParentheses body]) :=
  .append _ (apart_inParentheses body)

theorem reads_call (name : String) :
    Reads (call name) (":: wiregen :: runtime :: " ++ (name ++ " (")).toList () :=
  reads_named (isDistinct_singleton _) (List.mem_singleton.mpr rfl)

theorem reads_between (text : String) :
    Reads (between text) (" " ++ text ++ " ").toList () :=
  reads_mark _

/-! ## Keys and implementations -/

theorem apart_literalCode (text : String) : Apart [literalCode text] :=
  apart_of_last (List.nil_append _).symm rfl

theorem denotes_key (text : String) : Denotes key (keyCode text) text := by
  have inert : "TypeKey :: named".toList.all isInert = true := inert_ofList (by decide)
  refine ⟨apart_call _ _, fun rest => ?_⟩
  rw [keyCode, trailing_call inert, trailing_literalCode, List.append_assoc, List.append_assoc, key,
    bind_eq (reads_call _ _), bind_eq (reads_literal _ _), bind_eq (reads_mark _ _)]
  rfl

theorem reads_factory (name : String) (callable : List SyntaxTree) :
    Reads factory (trailing (runtime "FactoryRef :: new" ++
      [inParentheses ([literalCode name] ++ code "," ++ callable)])) name := by
  intro rest
  have inert : "FactoryRef :: new".toList.all isInert = true := inert_ofList (by decide)
  have later : SyntaxTree.piecesOf (code "," ++ callable) ≠ [] := by
    rw [piecesOf_append]
    exact List.append_ne_nil_of_left_ne_nil (apart_code (by decide)).some _
  have literal : spaced (SyntaxTree.piecesOf [literalCode name]) =
      (Text.stringLiteral name).toList ++ [' '] :=
    (apart_literalCode name).leading
  have body : trailing ([literalCode name] ++ code "," ++ callable) =
      (Text.stringLiteral name).toList ++ (' ' :: trailing (code "," ++ callable)) := by
    rw [List.append_assoc, trailing, SyntaxTree.textOf, piecesOf_append, joinPieces_append _ later,
      literal, List.append_assoc]
    rfl
  -- The code that is called may be anything; only its brackets and quotes are known to be closed.
  have past : skip (' ' :: trailing (code "," ++ callable) ++ (")".toList ++ rest)) =
      some ((), rest) := by
    simpa [trailing] using
      reads_skip (readsOver_textOf (code "," ++ callable)).afterSpace (c := ')') rfl rest
  rw [trailing_call inert, body, List.append_assoc, List.append_assoc, List.append_assoc, factory,
    bind_eq (reads_call _ _), bind_eq (reads_literal _ _), bind_eq past]
  rfl

theorem denotes_implementation_of {kind : String} (inert : kind.toList.all isInert = true)
    {read : Decoder Implementation} (member : (kind ++ " (", read) ∈ implementations)
    {body : List SyntaxTree} {found : Implementation} (inside : Reads read (trailing body) found) :
    Denotes implementation (runtime kind ++ [inParentheses body]) found := by
  have distinct : isDistinct implementations = true := by decide +kernel
  refine ⟨apart_call _ _, fun rest => ?_⟩
  rw [trailing_call inert, List.append_assoc, List.append_assoc, implementation,
    bind_eq (reads_named distinct member _), bind_eq (inside _), bind_eq (reads_mark _ _)]
  rfl

section Operations

variable {module : ModuleDescriptor} {owner : SyntaxTree} {resolved : ResolvedModule}

theorem denotes_implementation {found : Implementation} {trees : List SyntaxTree}
    (made : implementationCode module owner resolved found = .ok trees) :
    Denotes implementation trees found := by
  cases found with
  | type key =>
      obtain rfl := Except.ok.inj made
      have reads := reads_map (denotes_key key).reads Implementation.type
      exact denotes_implementation_of (inert_ofList (by decide)) (by simp [implementations]) reads
  | forward service =>
      obtain rfl := Except.ok.inj made
      have reads := reads_map (denotes_key service).reads Implementation.forward
      exact denotes_implementation_of (inert_ofList (by decide)) (by simp [implementations]) reads
  | factory name =>
      obtain ⟨callable, -, rfl⟩ := Outcome.map_eq_ok_iff.mp made
      have reads := reads_map (reads_factory name callable) Implementation.factory
      exact denotes_implementation_of (inert_ofList (by decide)) (by simp [implementations]) reads

/-! ## Registrations -/

theorem denotes_variant {α : Type} {type : String} {typeName : α → String} {all : List α}
    (distinct : isDistinct (variants type typeName all) = true)
    (inert : type.toList.all isInert = true)
    (inert' : ∀ value ∈ all, (typeName value).toList.all isInert = true)
    {value : α} (member : value ∈ all) :
    Denotes (named (variants type typeName all)) (runtime (type ++ typeName value) ++ code ",")
      value := by
  refine ⟨.append _ (apart_code (by decide)), ?_⟩
  rw [trailing_named (inert_append inert (inert' value member))]
  exact reads_named distinct (List.mem_map_of_mem member)

theorem denotes_lifetime (lifetime : Lifetime) :
    Denotes (named lifetimes) (runtime ("Lifetime :: " ++ lifetime.typeName) ++ code ",")
      lifetime := by
  have member : lifetime ∈ Lifetime.all := by cases lifetime <;> decide
  exact denotes_variant (by decide +kernel) (inert_ofList (by decide)) (by decide +kernel) member

theorem denotes_verb (verb : Verb) :
    Denotes (named verbs) (runtime ("RegistrationType :: " ++ verb.typeName) ++ code ",")
      verb := by
  have member : verb ∈ Verb.all := by cases verb <;> decide
  exact denotes_variant (by decide +kernel) (inert_ofList (by decide)) (by decide +kernel) member

/-- The code of a registration but for its key. -/
def bareCode (service : String) (implementation : List SyntaxTree) (lifetime : Lifetime) :
    List SyntaxTree :=
  runtime "ServiceRegistration :: new" ++
    [inParentheses (keyCode service ++ code "," ++ implementation ++ code "," ++
      runtime ("Lifetime :: " ++ lifetime.typeName) ++ code ",")]

theorem apart_bareCode (service : String) (trees : List SyntaxTree) (lifetime : Lifetime) :
    Apart (bareCode service trees lifetime) :=
  apart_call _ _

theorem registration_bareCode {found : Implementation} {trees : List SyntaxTree}
    (inside : Denotes implementation trees found) (service : String) (lifetime : Lifetime)
    (rest : List Char) :
    registration (trailing (bareCode service trees lifetime) ++ rest) =
      (keyIfAny >>= fun key => pure ⟨service, key, found, lifetime⟩) rest := by
  have inert : "ServiceRegistration :: new".toList.all isInert = true := inert_ofList (by decide)
  have comma : isWholeCode "," = true := by decide
  have ended := denotes_lifetime lifetime
  have body : trailing (keyCode service ++ code "," ++ trees ++ code "," ++
      runtime ("Lifetime :: " ++ lifetime.typeName) ++ code ",") =
        trailing (keyCode service) ++ ((" " ++ "," ++ " ").toList ++ (trailing trees ++
          ((" " ++ "," ++ " ").toList ++
            trailing (runtime ("Lifetime :: " ++ lifetime.typeName) ++ code ",")))) := by
    rw [List.append_assoc _ (runtime _),
      trailing_between comma (.append _ inside.apart) ended.apart,
      trailing_between comma (denotes_key service).apart inside.apart, List.append_assoc,
      List.append_assoc]
  rw [bareCode, trailing_call inert, body, registration]
  simp only [List.append_assoc]
  rw [bind_eq (reads_call _ _), bind_eq ((denotes_key service).reads _),
    bind_eq (reads_between _ _), bind_eq (inside.reads _), bind_eq (reads_between _ _),
    bind_eq (ended.reads _), bind_eq (reads_mark _ _)]

theorem registration_append {found : Registration} {trees : List SyntaxTree}
    (made : registrationCode module owner resolved found = .ok trees) :
    Apart trees ∧ ∀ rest, dropLead? " . with_key (" rest = none →
      registration (trailing trees ++ rest) = some (found, rest) := by
  obtain ⟨service, key, kind, lifetime⟩ := found
  obtain ⟨front, inside, rfl⟩ := Outcome.map_eq_ok_iff.mp made
  have denotes := denotes_implementation inside
  have bare := registration_bareCode denotes service lifetime
  have apart := apart_bareCode service front lifetime
  cases key with
  | none =>
      rw [← bareCode, List.append_nil]
      refine ⟨apart, fun rest other => ?_⟩
      rw [bare, keyIfAny, bind_assoc]
      have absent : mark? " . with_key (" rest = some (false, rest) := by rw [mark?, other]
      rw [bind_eq absent]
      rfl
  | some key =>
      have call : isWholeCode ". with_key" = true := by decide
      have suffix := apart_inParentheses [literalCode key]
      rw [← bareCode, ← List.append_assoc]
      refine ⟨.append _ suffix, fun rest _ => ?_⟩
      have text : trailing (bareCode service front lifetime ++ code ". with_key" ++
          [inParentheses [literalCode key]]) =
            trailing (bareCode service front lifetime) ++ (" . with_key (".toList ++
              ((Text.stringLiteral key).toList ++ ")".toList)) := by
        rw [trailing_between call apart suffix, trailing_inParentheses, trailing_literalCode]
        simp
      rw [text, List.append_assoc, bare, keyIfAny, bind_assoc, List.append_assoc,
        bind_eq (mark?_append _ _), List.append_assoc]
      simp only [if_true]
      rw [bind_assoc, bind_eq (reads_literal _ _), bind_assoc, bind_eq (reads_mark _ _)]
      rfl

/-! ## Lists -/

theorem apart_withCommas {first : List SyntaxTree} {rest : List (List SyntaxTree)}
    (apart : ∀ trees ∈ first :: rest, Apart trees) : Apart (withCommas (first :: rest)) := by
  induction rest generalizing first with
  | nil => exact apart first (List.mem_cons_self ..)
  | cons second rest ih =>
      exact .append _ (ih fun trees member => apart trees (List.mem_cons_of_mem _ member))

theorem trailing_withCommas {values : List (List SyntaxTree)}
    (apart : ∀ trees ∈ values, Apart trees) :
    trailing (withCommas values) = joined (values.map trailing) := by
  induction values with
  | nil => rfl
  | cons first rest ih =>
      cases rest with
      | nil => rfl
      | cons second rest =>
          rw [List.forall_mem_cons] at apart
          have comma : isWholeCode "," = true := by decide
          have later := apart_withCommas apart.2
          have more : (second :: rest).map trailing ≠ [] := by simp
          rw [withCommas, trailing_between comma apart.1 later, ih apart.2]
          · exact (joined_cons (trailing first) more).symm
          · exact List.cons_ne_nil second rest

theorem apart_listCode (values : List (List SyntaxTree)) : Apart (listCode values) :=
  .append _ (apart_inBrackets _)

theorem trailing_listCode {values : List (List SyntaxTree)}
    (apart : ∀ trees ∈ values, Apart trees) :
    trailing (listCode values) =
      ":: std :: vec ! [".toList ++ (joined (values.map trailing) ++ [']']) := by
  have vec : isWholeCode ":: std :: vec !" = true := isWholeCode_of_inert (inert_ofList (by decide))
  rw [listCode, trailing_append _ (apart_inBrackets _), leading_code vec, trailing_inBrackets,
    trailing_withCommas apart]
  simp

theorem denotes_listCode {α : Type} {item : Decoder α} {trees : List (List SyntaxTree)}
    {values : List α} (each : List.Forall₂ (Denotes item) trees values)
    (starts : ∀ tree ∈ trees, ∃ rest, trailing tree = ':' :: rest) :
    Denotes (vector item) (listCode trees) values := by
  refine ⟨apart_listCode trees, fun rest => ?_⟩
  have both : List.Forall₂ (fun tree value => Apart tree ∧ Reads item (trailing tree) value)
      trees values := each.imp fun _ _ denotes => ⟨denotes.apart, denotes.reads⟩
  obtain ⟨apart, reads⟩ := (List.forall₂_and_left trees values).mp both
  have texts : List.Forall₂ (Reads item) (trees.map trailing) values :=
    List.forall₂_map_left_iff.mpr reads
  -- A first item that began with the closing bracket would be taken for an empty list.
  have starts' : ∀ text ∈ trees.map trailing, ∃ c more, text = c :: more ∧ c ≠ ']' := by
    intro text member
    obtain ⟨tree, among, rfl⟩ := List.mem_map.mp member
    obtain ⟨more, begins⟩ := starts tree among
    exact ⟨':', more, begins, by decide⟩
  rw [trailing_listCode apart, List.append_assoc, vector, bind_eq (reads_mark _ _),
    reads_list texts starts']

/-! ## Operations -/

theorem isDistinct_operations : isDistinct operations = true := by
  decide +kernel

theorem denotes_single (name : String) (inert : name.toList.all isInert = true)
    {shape : Registration → Operation}
    (member : ("RegistrationOp :: " ++ name ++ " (", single shape) ∈ operations)
    {found : Registration} {trees : List SyntaxTree}
    (made : registrationCode module owner resolved found = .ok trees) :
    Denotes operation (runtime ("RegistrationOp :: " ++ name) ++ [inParentheses trees])
      (shape found) := by
  refine ⟨apart_call _ _, fun rest => ?_⟩
  obtain ⟨-, reads⟩ := registration_append made
  have inside := reads (")".toList ++ rest) (by simp [dropLead?])
  have inert' := inert_append (inert_ofList (by decide) :
    "RegistrationOp :: ".toList.all isInert = true) inert
  rw [trailing_call inert', List.append_assoc, List.append_assoc, operation,
    bind_eq (reads_named isDistinct_operations member _), single, bind_eq inside,
    bind_eq (reads_mark _ _)]
  rfl

theorem denotes_keys (interfaces : List String) :
    Denotes (vector key) (listCode (interfaces.map keyCode)) interfaces := by
  have inert : "TypeKey :: named".toList.all isInert = true := inert_ofList (by decide)
  refine denotes_listCode ?_ fun tree member => ?_
  · rw [List.forall₂_map_left_iff, List.forall₂_same]
    exact fun interface _ => denotes_key interface
  · obtain ⟨interface, -, rfl⟩ := List.mem_map.mp member
    exact exists_trailing_runtime inert (apart_inParentheses _)

def wiringCode (registration : List SyntaxTree) (interfaces : List String) (verb : Verb) :
    List SyntaxTree :=
  code "registration :" ++ registration ++ code ", interfaces :" ++
    listCode (interfaces.map keyCode) ++ code ", verb :" ++
    runtime ("RegistrationType :: " ++ verb.typeName) ++ code ","

theorem trailing_wiringCode {trees : List SyntaxTree} (apart : Apart trees)
    (interfaces : List String) (verb : Verb) :
    trailing (wiringCode trees interfaces verb) =
      ("registration :" ++ " ").toList ++ (trailing trees ++
        ((" " ++ ", interfaces :" ++ " ").toList ++ (trailing (listCode (interfaces.map keyCode)) ++
          ((" " ++ ", verb :" ++ " ").toList ++
            trailing (runtime ("RegistrationType :: " ++ verb.typeName) ++ code ","))))) := by
  have first : isWholeCode "registration :" = true :=
    isWholeCode_of_inert (inert_ofList (by decide))
  have second : isWholeCode ", interfaces :" = true :=
    isWholeCode_of_inert (inert_ofList (by decide))
  have third : isWholeCode ", verb :" = true := isWholeCode_of_inert (inert_ofList (by decide))
  have keys := (denotes_keys interfaces).apart
  have ended := (denotes_verb verb).apart
  rw [wiringCode, List.append_assoc _ (runtime _), trailing_between third (.append _ keys) ended,
    trailing_between second (.append _ apart) keys, trailing_append _ apart, leading_code first]
  simp only [List.append_assoc]

theorem denotes_crossWire {found : Registration} {trees : List SyntaxTree}
    (made : registrationCode module owner resolved found = .ok trees) (interfaces : List String)
    (verb : Verb) :
    Denotes operation (runtime ("RegistrationOp :: " ++ "CrossWire") ++
      [inBraces (wiringCode trees interfaces verb)]) (.crossWire found interfaces verb) := by
  refine ⟨.append _ (apart_inBraces _), fun rest => ?_⟩
  have inert : ("RegistrationOp :: " ++ "CrossWire").toList.all isInert = true :=
    inert_append (inert_ofList (by decide)) (inert_ofList (by decide))
  have member : ("RegistrationOp :: " ++ "CrossWire" ++ " \x7b ", crossWire) ∈ operations := by
    simp [operations]
  obtain ⟨apart, reads⟩ := registration_append made
  have inside := fun rest => reads ((" " ++ ", interfaces :" ++ " ").toList ++ rest)
    (by simp [dropLead?])
  have body := trailing_wiringCode apart interfaces verb
  have nonempty : trailing (wiringCode trees interfaces verb) ≠ [] := by
    rw [body]
    exact List.append_ne_nil_of_left_ne_nil (by simp) _
  rw [trailing_braced inert nonempty, body]
  simp only [List.append_assoc]
  rw [operation, bind_eq (reads_named isDistinct_operations member _), crossWire,
    bind_eq (reads_mark _ _), bind_eq (inside _), bind_eq (reads_between _ _),
    bind_eq ((denotes_keys interfaces).reads _), bind_eq (reads_between _ _),
    bind_eq ((denotes_verb verb).reads _), bind_eq (reads_mark _ _)]
  rfl

theorem denotes_operation {found : Operation} {trees : List SyntaxTree}
    (made : operationCode module owner resolved found = .ok trees) :
    Denotes operation trees found := by
  obtain ⟨registration, inside, rfl⟩ := Outcome.map_eq_ok_iff.mp made
  cases found with
  | addStandard found =>
      exact denotes_single "AddStandard" (inert_ofList (by decide)) (by simp [operations]) inside
  | addKeyed found =>
      exact denotes_single "AddKeyed" (inert_ofList (by decide)) (by simp [operations]) inside
  | tryAdd found =>
      exact denotes_single "TryAdd" (inert_ofList (by decide)) (by simp [operations]) inside
  | tryAddEnumerable found =>
      exact denotes_single "TryAddEnumerable" (inert_ofList (by decide)) (by simp [operations])
        inside
  | replace found =>
      exact denotes_single "Replace" (inert_ofList (by decide)) (by simp [operations]) inside
  | crossWire found interfaces verb =>
      exact denotes_crossWire inside interfaces verb

theorem starts_operation {found : Operation} {trees : List SyntaxTree}
    (made : operationCode module owner resolved found = .ok trees) :
    ∃ rest, trailing trees = ':' :: rest := by
  obtain ⟨registration, -, rfl⟩ := Outcome.map_eq_ok_iff.mp made
  have inert : ("RegistrationOp :: " ++ operationName found).toList.all isInert = true := by
    refine inert_append (inert_ofList (by decide)) ?_
    cases found <;> exact inert_ofList (by decide)
  cases found <;> first
    | exact exists_trailing_runtime inert (apart_inParentheses _)
    | exact exists_trailing_runtime inert (apart_inBraces _)

theorem denotes_operations {found : List Operation} {trees : List (List SyntaxTree)}
    (made : found.mapM (operationCode module owner resolved) = .ok trees) :
    Denotes (vector operation) (listCode trees) found := by
  have each := Outcome.forall₂_of_mapM made
  have starts : List.Forall₂ (fun tree found => (∃ rest, trailing tree = ':' :: rest) ∧
      Denotes operation tree found) trees found :=
    each.flip.imp fun _ _ made => ⟨starts_operation made, denotes_operation made⟩
  obtain ⟨starts, denotes⟩ := (List.forall₂_and_left trees found).mp starts
  exact denotes_listCode denotes starts

end Operations

/-! ## Units -/

def tableHead : List SyntaxTree :=
  code ("static REGISTRATIONS : " ++ lazyCode ++ " <") ++ listType (runtime "RegistrationOp") ++
    code (", > = " ++ lazyCode ++ " :: new")

def functionHead : List SyntaxTree :=
  hiddenCode ++ (code ("pub fn " ++ registrationsFunction) ++ [inParentheses []] ++
    (code "-> & 'static" ++ [inBrackets (runtime "RegistrationOp")]))

def functionBody (operations : List (List SyntaxTree)) : List SyntaxTree :=
  tableHead ++ [inParentheses (code "||" ++ [inBraces (listCode operations)])] ++
    (code "; REGISTRATIONS . as_slice" ++ [inParentheses []])

def implBody (unit : RegistrationsUnit) : List SyntaxTree :=
  functionHead ++ [inBraces (functionBody unit.operations)] ++ unit.glue.flatMap Glue.code

theorem code_eq (unit : RegistrationsUnit) :
    unit.code = code "impl" ++ [unit.type] ++ [inBraces (implBody unit)] := by
  simp [RegistrationsUnit.code, implBody, functionHead, functionBody, tableHead, function]

theorem leading_tableHead : leading tableHead = tableText.toList := by
  have lazy : lazyCode.toList.all isInert = true := inert_ofList (by decide)
  have operation : "RegistrationOp".toList.all isInert = true := inert_ofList (by decide)
  have first : isWholeCode ("static REGISTRATIONS : " ++ lazyCode ++ " <") = true :=
    isWholeCode_of_inert (inert_append (inert_append (inert_ofList (by decide)) lazy)
      (inert_ofList (by decide)))
  have last : isWholeCode (", > = " ++ lazyCode ++ " :: new") = true :=
    isWholeCode_of_inert (inert_append (inert_append (inert_ofList (by decide)) lazy)
      (inert_ofList (by decide)))
  have vec : isWholeCode ":: std :: vec :: Vec <" = true :=
    isWholeCode_of_inert (inert_ofList (by decide))
  have close : isWholeCode ">" = true := by decide
  unfold tableHead listType tableText
  simp only [leading_append, leading_code first, leading_code last, leading_code vec,
    leading_code close, leading_runtime operation]
  simp

theorem leading_functionHead : leading functionHead = functionText.toList := by
  have operation : "RegistrationOp".toList.all isInert = true := inert_ofList (by decide)
  have hash : isWholeCode "#" = true := by decide
  have doc : isWholeCode "doc" = true := by decide
  have hidden : isWholeCode "hidden" = true := by decide
  have name : isWholeCode ("pub fn " ++ registrationsFunction) = true :=
    isWholeCode_of_inert (inert_append (inert_ofList (by decide)) (inert_ofList (by decide)))
  have output : isWholeCode "-> & 'static" = true := by decide
  have doc' := trailing_append (code "doc") (apart_inParentheses (code "hidden"))
  rw [leading_code doc, trailing_inParentheses, trailing_code hidden] at doc'
  have operation' : trailing (runtime "RegistrationOp") = _ :=
    trailing_code (isWholeCode_runtime operation)
  have empty : trailing [] = [] := rfl
  unfold functionHead hiddenCode functionText
  simp only [leading_append, leading_code hash, leading_code name, leading_code output,
    (apart_inBrackets _).leading, (apart_inParentheses _).leading, trailing_inBrackets,
    trailing_inParentheses, doc', operation', empty]
  unfold registrationsFunction
  simp

theorem trailing_functionBody (operations : List (List SyntaxTree)) :
    ∃ rest, trailing (functionBody operations) =
      tableText.toList ++ ("(|| \x7b ".toList ++ (trailing (listCode operations) ++ rest)) := by
  have bars : isWholeCode "||" = true := by decide
  have nonempty : trailing (listCode operations) ≠ [] := by
    rw [listCode, trailing_append _ (apart_inBrackets _), trailing_inBrackets]
    simp
  obtain ⟨rest, text⟩ := exists_trailing_append
    (.append tableHead (apart_inParentheses (code "||" ++ [inBraces (listCode operations)])))
    (code "; REGISTRATIONS . as_slice" ++ [inParentheses []])
  refine ⟨" \x7d)".toList ++ rest, ?_⟩
  rw [functionBody, text, trailing_append _ (apart_inParentheses _), leading_tableHead,
    trailing_inParentheses, trailing_append _ (apart_inBraces _), leading_code bars,
    trailing_inBraces _ nonempty]
  simp

theorem trailing_implBody (unit : RegistrationsUnit) :
    ∃ rest, trailing (implBody unit) =
      functionText.toList ++ ("\x7b ".toList ++ (tableText.toList ++ ("(|| \x7b ".toList ++
        (trailing (listCode unit.operations) ++ rest)))) := by
  obtain ⟨rest, table⟩ := trailing_functionBody unit.operations
  have nonempty : trailing (functionBody unit.operations) ≠ [] := by
    rw [table]
    exact List.append_ne_nil_of_right_ne_nil _ (List.append_ne_nil_of_left_ne_nil (by simp) _)
  obtain ⟨later, text⟩ := exists_trailing_append
    (.append functionHead (apart_inBraces (functionBody unit.operations)))
    (unit.glue.flatMap Glue.code)
  refine ⟨rest ++ (" \x7d".toList ++ later), ?_⟩
  rw [implBody, text, trailing_append _ (apart_inBraces _), leading_functionHead,
    trailing_inBraces _ nonempty, table]
  simp only [List.append_assoc]

theorem trailing_implBody_ne_nil (unit : RegistrationsUnit) : trailing (implBody unit) ≠ [] := by
  obtain ⟨rest, begins⟩ := trailing_implBody unit
  rw [begins]
  exact List.append_ne_nil_of_right_ne_nil _ (List.append_ne_nil_of_left_ne_nil (by simp) _)

theorem unitBody_append (unit : RegistrationsUnit) {found : List Operation}
    (denotes : Denotes (vector operation) (listCode unit.operations) found)
    (rest : List Char) :
    ∃ left, unitBody (" ".toList ++ (trailing (implBody unit) ++ rest)) = some (found, left) := by
  obtain ⟨later, begins⟩ := trailing_implBody unit
  refine ⟨later ++ rest, ?_⟩
  rw [begins, unitBody]
  simp only [List.append_assoc]
  rw [bind_eq (reads_mark _ _), bind_eq (reads_mark _ _), bind_eq (reads_mark _ _),
    bind_eq (reads_mark _ _), bind_eq (reads_mark _ _), denotes.reads]

theorem lastBrace_ofCode (name : String) (unit : RegistrationsUnit) :
    lastBrace .apart 0 (GeneratedFile.ofCode name unit.code).contents.toList none =
      some (" ".toList ++ (trailing (implBody unit) ++ " \x7d\n".toList)) := by
  have header : Place.apart.after? 0 generatedHeader.toList = some (.apart, 0) :=
    after?_ofList (by decide)
  have before : Place.apart.after? 0
      (generatedHeader.toList ++ leading (code "impl" ++ [unit.type])) = some (.apart, 0) := by
    rw [Place.after?_append, header]
    exact after?_spaced (whole_piecesOf _)
  have inside : ReadsOver (' ' :: (trailing (implBody unit) ++ [' '])) :=
    (readsOver_textOf _).inSpaces
  have text : (SyntaxTree.textOf unit.code).toList = leading (code "impl" ++ [unit.type]) ++
      ("\x7b ".toList ++ (trailing (implBody unit) ++ " \x7d".toList)) := by
    rw [← trailing_inBraces _ (trailing_implBody_ne_nil unit),
      ← trailing_append _ (apart_inBraces _), code_eq]
    rfl
  have contents : (GeneratedFile.ofCode name unit.code).contents.toList =
      (generatedHeader.toList ++ leading (code "impl" ++ [unit.type])) ++
        '\x7b' :: (' ' :: (trailing (implBody unit) ++ [' ']) ++ ['\x7d', '\n']) := by
    simp [GeneratedFile.ofCode, text]
  rw [contents, lastBrace_group before inside]
  simp

theorem decodeOperations_of_registrationsFile {module : ModuleDescriptor}
    {resolved : ResolvedModule} {operations : List Operation} {file : GeneratedFile}
    (rendered : registrationsFile module resolved operations = .ok file) :
    decodeOperations file.contents = some operations := by
  obtain ⟨unit, made, rfl⟩ := Outcome.map_eq_ok_iff.mp rendered
  simp only [registrationsUnitOf, Outcome.bind_eq_ok_iff, Outcome.pure_eq_ok_iff] at made
  obtain ⟨type, -, codes, rebuilt, glue, -, rfl⟩ := made
  obtain ⟨left, reads⟩ := unitBody_append ⟨type, codes, glue⟩ (denotes_operations rebuilt)
    " \x7d\n".toList
  rw [decodeOperations, lastBrace_ofCode]
  simp only [Option.bind_eq_bind, Option.bind_some, reads]
  rfl

/-- The registrations unit of a module holds its operations without loss: they can be read off its
text, so no other operations have the same text, in this module or in another one. -/
theorem decode_registrationsFile {module : ModuleDescriptor} {resolved : ResolvedModule}
    {operations : List Operation} {file : GeneratedFile}
    (rendered : registrationsFile module resolved operations = .ok file) :
    decodeOperations file.contents = some operations ∧
      ∀ {module' : ModuleDescriptor} {resolved' : ResolvedModule} {operations' : List Operation}
        {file' : GeneratedFile},
        registrationsFile module' resolved' operations' = .ok file' →
          operations ≠ operations' → file.contents ≠ file'.contents := by
  have decoded := decodeOperations_of_registrationsFile rendered
  refine ⟨decoded, fun rendered' other same => other ?_⟩
  have both := decodeOperations_of_registrationsFile rendered'
  rw [← same, decoded] at both
  exact Option.some.inj both

def shop : ModuleDescriptor :=
  .ofType (.of "crate" "Shop") "src/lib.rs"

def stock : ResolvedModule where
  module := shop.type
  registrations :=
    [⟨.of "crate" "Till", .of "crate" "Till", .singleton, .tryAdd, none,
        .glue "__wiregen_glue_till_open", none⟩,
      ⟨.of "crate" "Ledger", .of "crate" "Book", .scoped, .add, some "\"ä\\\x00\n",
        .factory "crate::ledger::write", none⟩,
      ⟨.of "crate" "Clerk", .of "crate" "Clerk", .transient, .replace, none,
        .type (.of "crate" "Clerk"), some [.of "crate" "Seller", .of "crate" "Buyer"]⟩]
  glueFactories := [⟨"crate::till::open", [.shared "book" "crate::Book" (.of "crate" "Book")]⟩]

theorem decode_registrationsFile_stock :
    ∃ file reversed, registrationsFile shop stock stock.operations = .ok file ∧
      registrationsFile shop stock stock.operations.reverse = .ok reversed ∧
      decodeOperations file.contents = some stock.operations ∧
      stock.operations ≠ stock.operations.reverse ∧ file.contents ≠ reversed.contents := by
  obtain ⟨file, rendered⟩ : ∃ file, registrationsFile shop stock stock.operations = .ok file :=
    Outcome.exists_of_isOk (by decide +kernel)
  obtain ⟨reversed, rendered'⟩ :
      ∃ file, registrationsFile shop stock stock.operations.reverse = .ok file :=
    Outcome.exists_of_isOk (by decide +kernel)
  obtain ⟨decoded, differs⟩ := decode_registrationsFile rendered
  have other : stock.operations ≠ stock.operations.reverse := by decide +kernel
  exact ⟨file, reversed, rendered, rendered', decoded, other, differs rendered' other⟩

end Wiring.Generated
