import Mathlib.Data.List.Nodup
import Mathlib.Data.List.Range
import Wiring.Proofs.Grammar.Numerals
import Wiring.Proofs.Outcome
import Wiring.Proofs.Source.Isolation
import Wiring.Proofs.Source.Nesting
import Wiring.Proofs.Source.References

/-!
# Names of parameters and properties

A parameter whose pattern is a name has that name, and every other one has a name that is made up
from its place alone. So the parameters of a signature have different names exactly if the written
names differ and none of them is one of the names made up beside it: see `nodup_parameterNames_iff`.
The properties of a module are called otherwise: see `exists_namedBy_of_mem_modules`.
-/

set_option autoImplicit false

namespace Wiring.Source

open Wiring.Grammar

/-! ## Names of a signature -/

/-- Whether an input is a parameter with a type. The value itself is none. -/
def isTyped (input : SyntaxTree) : Bool :=
  !input.hasKind .receiver && input.fieldType?.isSome

/-- The names of the parameters among some inputs. -/
def parameterNames (inputs : List SyntaxTree) : List String :=
  (FileFacts.inputsFrom 0 inputs).map (·.1)

def boundNames (inputs : List SyntaxTree) : List String :=
  (inputs.filter isTyped).filterMap SyntaxTree.boundName?

def inventedName (place : Nat) : String :=
  "arg" ++ toString place

/-- The places of the parameters whose patterns are no names, counted from a place on. -/
def namelessPlaces (place : Nat) (inputs : List SyntaxTree) : List Nat :=
  ((inputs.zipIdx place).filter fun entry =>
    isTyped entry.1 && entry.1.boundName?.isNone).map (·.2)

def inventedNames (inputs : List SyntaxTree) : List String :=
  (namelessPlaces 0 inputs).map inventedName

theorem inventedName_inj {left right : Nat} (same : inventedName left = inventedName right) :
    left = right := by
  rw [inventedName, inventedName, String.append_right_inj] at same
  exact toString_nat_inj same

section Signature

variable (place : Nat) (input : SyntaxTree) (rest inputs : List SyntaxTree)

theorem names_inputsFrom_cons :
    (FileFacts.inputsFrom place (input :: rest)).map (·.1) =
      (if isTyped input then [input.boundName?.getD (inventedName place)] else []) ++
        (FileFacts.inputsFrom (place + 1) rest).map (·.1) := by
  rw [FileFacts.inputsFrom, isTyped]
  cases input.hasKind .receiver with
  | true => rfl
  | false => cases input.fieldType? <;> rfl

theorem namelessPlaces_cons :
    namelessPlaces place (input :: rest) =
      (if isTyped input && input.boundName?.isNone then [place] else []) ++
        namelessPlaces (place + 1) rest := by
  rw [namelessPlaces, List.zipIdx_cons, List.filter_cons]
  split <;> rfl

theorem boundNames_cons :
    boundNames (input :: rest) =
      (if isTyped input then input.boundName?.toList else []) ++ boundNames rest := by
  rw [boundNames, List.filter_cons]
  split
  · rw [List.filterMap_cons]
    cases input.boundName? <;> rfl
  · rfl

/-- The names of parameters are those that are written and those that are made up. -/
theorem names_inputsFrom_perm :
    ((FileFacts.inputsFrom place inputs).map (·.1)).Perm
      (boundNames inputs ++ (namelessPlaces place inputs).map inventedName) := by
  induction inputs generalizing place with
  | nil => exact .refl _
  | cons input rest ih =>
      rw [names_inputsFrom_cons, namelessPlaces_cons, boundNames_cons]
      cases isTyped input with
      | false => exact ih (place + 1)
      | true =>
          cases input.boundName? with
          | some name => exact (ih (place + 1)).cons name
          | none =>
              exact ((ih (place + 1)).cons (inventedName place)).trans List.perm_middle.symm

theorem nodup_namelessPlaces : (namelessPlaces place inputs).Nodup := by
  have counted : ((inputs.zipIdx place).map Prod.snd).Nodup := by
    rw [List.zipIdx_map_snd]
    exact List.nodup_range'
  exact counted.sublist (List.filter_sublist.map _)

/-- Names that are read in a way that keeps those made up apart differ exactly if those written
differ and none of them is one of those made up. -/
theorem nodup_parameterNames_iff {α : Type} (read : String → α)
    (apart : ∀ {left right}, read (inventedName left) = read (inventedName right) →
      left = right) :
    ((parameterNames inputs).map read).Nodup ↔
      ((boundNames inputs).map read).Nodup ∧
        ∀ name ∈ boundNames inputs, ∀ other ∈ inventedNames inputs, read name ≠ read other := by
  have invented : ((inventedNames inputs).map read).Nodup := by
    rw [inventedNames, List.map_map]
    exact (nodup_namelessPlaces 0 inputs).map fun _ _ => apart
  have names := (names_inputsFrom_perm 0 inputs).map read
  rw [parameterNames, names.nodup_iff, ← inventedNames, List.map_append, List.nodup_append]
  simp only [invented, true_and, List.forall_mem_map]

end Signature

/-! ## Functions of a file -/

def Site.signatures (site : Site) : List SyntaxTree :=
  match site.kind with
  | .implItem => (inherentMethods site.item).filterMap (·.child? .signature)
  | .functionItem => (site.item.child? .signature).toList
  | _ => []

def signatures (file : SyntaxTree) : List SyntaxTree :=
  (fileSites file).flatMap Site.signatures

theorem Site.exists_signature (site : Site) {scope : Nat} {found : FunctionFacts}
    (member : found ∈ site.functions scope) :
    ∃ owner, ∃ signature ∈ site.signatures,
      found = FileFacts.functionFacts scope owner signature := by
  unfold Site.functions at member
  split at member
  case h_1 kind =>
      obtain ⟨method, listed, made⟩ := List.mem_flatMap.mp member
      obtain ⟨signature, written, rfl⟩ := List.mem_map.mp made
      rw [Site.signatures, kind]
      exact ⟨_, signature, List.mem_filterMap.mpr ⟨method, listed, Option.mem_toList.mp written⟩,
        rfl⟩
  case h_2 kind =>
      obtain ⟨signature, written, rfl⟩ := List.mem_map.mp member
      rw [Site.signatures, kind]
      exact ⟨_, signature, written, rfl⟩
  case h_3 => cases member

theorem exists_signature_of_collect {path space : String} {file : SyntaxTree}
    {found : FunctionFacts} (member : found ∈ (FileFacts.collect path space file).functions) :
    ∃ signature ∈ signatures file,
      found.inputs = FileFacts.inputsFrom 0 signature.signatureInputs := by
  have start : FileFacts.Holds space (nests file) [[]] [] (.empty path space) :=
    ⟨by simp, by simp [FileFacts.empty, scopeOf, Scope.addUses, Text.joinSegments], rfl, rfl, rfl,
      rfl⟩
  have holds := FileFacts.holds_visit (nodup_nests file) [] [] true file start (by simp)
    List.prefix_rfl
  have index : (nests file).idxOf [] = 0 := by simp [nests]
  rw [index, ← FileFacts.collect] at holds
  rw [holds.functions] at member
  obtain ⟨site, listed, made⟩ := List.mem_flatMap.mp member
  obtain ⟨owner, signature, written, rfl⟩ := site.exists_signature made
  exact ⟨signature, List.mem_flatMap.mpr ⟨site, listed, written⟩, rfl⟩

/-! ## Discovered modules -/

section Discovered

variable {settings : Settings} {sources : List SourceText} {module : ModuleDescriptor}

/-- What a constructor is given: the inputs of a function in the source texts, or nothing. -/
def IsGiven (sources : List SourceText) (inputs : List SyntaxTree) : Prop :=
  inputs = [] ∨ ∃ source ∈ sources, ∃ file, parseFile source.text = .ok file ∧
    ∃ signature ∈ signatures file, signature.signatureInputs = inputs

/-- A module has parameters that are called like some inputs, and no property that is called like
one of them. -/
structure NamedBy (inputs : List SyntaxTree) (module : ModuleDescriptor) : Prop where
  parameters : module.constructor.map (·.name) = parameterNames inputs
  properties : ∀ property ∈ module.properties, property.name ∉ parameterNames inputs

theorem exists_collect_of_mem_parsedFacts {facts : FileFacts}
    (member : facts ∈ parsedFacts settings sources) :
    ∃ source ∈ sources, ∃ file, parseFile source.text = .ok file ∧
      ∃ space, facts = .collect source.path space file := by
  obtain ⟨source, listed, parsed⟩ := List.mem_filterMap.mp member
  refine ⟨source, listed, ?_⟩
  unfold factsOf at parsed
  dsimp only at parsed
  split at parsed
  · rename_i file read
    exact ⟨file, read, _, (Option.some.inj parsed).symm⟩
  · cases parsed

theorem exists_given_of_constructorOf (id : String) :
    ∃ inputs, IsGiven sources inputs ∧
      (constructorOf (tables settings sources) id).map (·.name) = parameterNames inputs := by
  unfold constructorOf
  split
  · rename_i file found known
    split
    · obtain ⟨entry, first, same⟩ := Option.map_eq_some_iff.mp known
      obtain ⟨facts, parsed, listed⟩ := List.mem_flatMap.mp (List.mem_of_find?_eq_some first)
      obtain ⟨function, member, rfl⟩ := List.mem_map.mp listed
      obtain ⟨rfl, rfl⟩ := Prod.mk.inj same
      obtain ⟨source, sourced, tree, read, space, rfl⟩ := exists_collect_of_mem_parsedFacts parsed
      obtain ⟨signature, written, inputs⟩ := exists_signature_of_collect member
      refine ⟨_, .inr ⟨source, sourced, tree, read, signature, written, rfl⟩, ?_⟩
      rw [inputs, List.map_map]
      rfl
    · exact ⟨[], .inl rfl, rfl⟩
  · exact ⟨[], .inl rfl, rfl⟩

theorem exists_namedBy_of_moduleOf {file : FileFacts} {item : DeclaredItem}
    {found : FoundAttribute}
    (made : moduleOf (tables settings sources) settings file item found = .ok module) :
    ∃ inputs, IsGiven sources inputs ∧ NamedBy inputs module := by
  unfold moduleOf at made
  split at made
  · cases made
  · simp only [Outcome.bind_eq_ok_iff, Outcome.pure_eq_ok_iff] at made
    obtain ⟨given, -, rfl⟩ := made
    obtain ⟨inputs, isGiven, names⟩ := exists_given_of_constructorOf
      (ModuleDescriptor.ofType (item.type file) file.path).id
    refine ⟨inputs, isGiven, names, fun property member => ?_⟩
    rw [← names]
    obtain ⟨field, kept, rfl⟩ := List.mem_map.mp member
    obtain ⟨-, other⟩ := Bool.and_eq_true_iff.mp (List.mem_filter.mp kept).2
    simpa using other

theorem mem_modules_discover (member : (module, settings) ∈ (discover settings sources).modules) :
    (∃ file item found, moduleOf (tables settings sources) settings file item found = .ok module) ∨
      ∃ file, module = programModule (tables settings sources) settings file := by
  obtain ⟨_, listed, same⟩ := List.mem_map.mp member
  obtain ⟨rfl, -⟩ := Prod.mk.inj same
  rw [analyze, modules_concat] at listed
  obtain ⟨file, -, listed⟩ := List.mem_flatMap.mp listed
  simp only [fileFindings, Findings.append, List.nil_append, modules_concat,
    modules_itemFindings, List.mem_append, List.mem_flatMap] at listed
  rcases listed with ⟨item, -, found, -, listed⟩ | listed
  · unfold moduleFindings at listed
    split at listed
    · rename_i made
      obtain rfl := List.mem_singleton.mp listed
      exact .inl ⟨file, item, found, made⟩
    · cases listed
  · unfold programFindings at listed
    split at listed
    · exact .inr ⟨file, List.mem_singleton.mp listed⟩
    · cases listed

/-- The parameters of every discovered module are called like the inputs of a function in the source
texts, and its properties otherwise. -/
theorem exists_namedBy_of_mem_modules
    (member : (module, settings) ∈ (discover settings sources).modules) :
    ∃ inputs, IsGiven sources inputs ∧ NamedBy inputs module := by
  rcases mem_modules_discover member with ⟨file, item, found, made⟩ | ⟨file, rfl⟩
  · exact exists_namedBy_of_moduleOf made
  · exact ⟨[], .inl rfl, rfl, List.forall_mem_nil _⟩

end Discovered

end Wiring.Source
