import Mathlib.Data.List.Forall2
import Wiring.Generated.Facade
import Wiring.Proofs.Grammar.Reading
import Wiring.Proofs.Outcome
import Wiring.Proofs.Source.ParameterNames

/-!
# Names in companions

The marker of a module declares a field for each parameter of the constructor and for each property,
and its `new` and the extension method have an input for each parameter. What counts there is which
identifier a name is: a raw name is the same one as the plain name. See `companions_apart`.
-/

set_option autoImplicit false

namespace Wiring.Generated

open Wiring.Grammar
open Wiring.Grammar.Reader
open Wiring.Source
open Wiring.Text

/-! ## Identifiers -/

def plainName (name : String) : String :=
  String.ofList ((dropLeadChars? ['r', '#'] name.toList).getD name.toList)

def identifierOf (tree : SyntaxTree) : Option String :=
  tree.text?.map plainName

/-- The identifier that a text is when it is read as a name. Keywords, `self` among them, are
none. -/
def identifier? (text : String) : Option String :=
  (parseText nameForm text).toOption.bind identifierOf

theorem identifier?_of_isWord {name : String} (word : isWord name = true)
    (free : Ahead.keywords.contains name = false) : identifier? name = some (plainName name) := by
  have noGap : ∀ c ∈ ([] : List Char), c = ' ' := List.forall_mem_nil _
  have words : ∀ other ∈ [name], isWord other = true := List.forall_mem_singleton.mpr word
  have spells : name.toList = spellPath [] false [name] := rfl
  obtain ⟨tokens, spelled, lexed⟩ := exists_lex_spelled noGap (by simp) words spells
  obtain ⟨spelled⟩ := spelled
  cases spelled with
  | more _ _ _ _ rest => cases rest
  | last _ whole =>
      have parsed : parseText nameForm name = .ok (.token .ident name 1 whole) := by
        rw [parseText, lexed]
        refine run_eq_ok_iff.mpr ?_
        rw [nameForm, reads_name_word, free]
        rfl
      rw [identifier?, parsed]
      rfl

section Invented

variable (place : Nat)

theorem toList_inventedName :
    (inventedName place).toList = 'a' :: 'r' :: 'g' :: (toString place).toList := by
  rw [inventedName, String.toList_append]
  rfl

theorem isWord_inventedName : isWord (inventedName place) = true := by
  have digits : (toString place).toList.all isIdentifierContinue = true := by
    refine List.all_eq_true.mpr fun c member => ?_
    simp [isIdentifierContinue, Char.isAlphanum, all_isDigit_toString place c member]
  have letters : (isIdentifierStart 'a' && (isIdentifierContinue 'r' && isIdentifierContinue 'g')) =
      true := by decide
  have text : isIdentifierText (inventedName place).toList = true := by
    rw [toList_inventedName]
    rw [isIdentifierText, List.all_cons, List.all_cons, digits, Bool.and_true]
    exact letters
  rw [toList_inventedName] at text
  rw [isWord, toList_inventedName]
  exact text

theorem inventedName_free : Ahead.keywords.contains (inventedName place) = false := by
  have others : ∀ word ∈ Ahead.keywords, word.toList.take 3 ≠ ['a', 'r', 'g'] := by decide
  rw [List.contains_eq_mem, decide_eq_false_iff_not]
  intro member
  exact others _ member (by rw [toList_inventedName]; rfl)

theorem identifier?_inventedName :
    identifier? (inventedName place) = some (inventedName place) := by
  have plain : plainName (inventedName place) = inventedName place := by
    rw [plainName, toList_inventedName]
    exact (congrArg String.ofList (toList_inventedName place).symm).trans String.ofList_toList
  rw [identifier?_of_isWord (isWord_inventedName place) (inventedName_free place), plain]

end Invented

def IsWord (tree : SyntaxTree) : Prop :=
  ∃ text line whole, tree = .token .ident text line whole

theorem namePart_ok {module : ModuleDescriptor} {text : String} {tree : SyntaxTree}
    (read : namePart module text = .ok tree) :
    identifier? text = identifierOf tree ∧ IsWord tree := by
  unfold namePart part at read
  split at read
  · rename_i found parsed
    cases read
    refine ⟨by rw [identifier?, parsed]; rfl, ?_⟩
    unfold parseText at parsed
    split at parsed
    · cases parsed
    · rename_i tokens lexed
      have reads := run_eq_ok_iff.mp parsed
      cases word : Ahead.anyWord tokens with
      | false =>
          rw [nameForm, reads_name_of_not word] at reads
          cases reads
      | true =>
          unfold Ahead.anyWord at word
          split at word
          · rw [nameForm, reads_name_word] at reads
            split at reads
            · cases reads
            · cases reads
              exact ⟨_, _, _, rfl⟩
          · cases word
  · cases read

/-! ## Names in code -/

def declaredFields : List SyntaxTree → List SyntaxTree
  | mark :: name :: colon :: rest =>
      if mark.text? = some "pub" ∧ colon.isPunct ":" then name :: declaredFields rest
      else declaredFields (name :: colon :: rest)
  | _ => []

def typedInputs : List SyntaxTree → List SyntaxTree
  | name :: colon :: type :: rest =>
      if colon.isPunct ":" then name :: typedInputs rest
      else typedInputs (colon :: type :: rest)
  | _ => []

def groupIn (delimiter : Delimiter) (trees : List SyntaxTree) : List SyntaxTree :=
  (trees.findSome? fun
    | .group found body _ _ => if found == delimiter then some body else none
    | _ => none).getD []

/-- Whether code does not begin with a colon. -/
def NoColon (trees : List SyntaxTree) : Prop :=
  ∀ tree ∈ trees.head?, tree.isPunct ":" = false

theorem declaredFields_cons {tree : SyntaxTree} (other : tree.text? ≠ some "pub")
    (rest : List SyntaxTree) : declaredFields (tree :: rest) = declaredFields rest := by
  match rest with
  | [] | [_] => rfl
  | _ :: _ :: _ => rw [declaredFields, if_neg fun both => other both.1]

theorem declaredFields_append {front : List SyntaxTree}
    (others : ∀ tree ∈ front, tree.text? ≠ some "pub") (rest : List SyntaxTree) :
    declaredFields (front ++ rest) = declaredFields rest := by
  induction front with
  | nil => rfl
  | cons tree front ih =>
      obtain ⟨other, others⟩ := List.forall_mem_cons.mp others
      rw [List.cons_append, declaredFields_cons other, ih others]

/-- Whatever a type is, it declares no field: no colon stands two trees behind it. -/
theorem declaredFields_type (type next : SyntaxTree) {rest : List SyntaxTree}
    (apart : NoColon rest) :
    declaredFields (type :: next :: rest) = declaredFields (next :: rest) := by
  match rest with
  | [] => rfl
  | tree :: _ =>
      have noColon : ¬(tree.isPunct ":" = true) := by simpa using apart tree rfl
      rw [declaredFields, if_neg fun both => noColon both.2]

section Fields

variable (typed : TypedName) {rest : List SyntaxTree}

theorem declaredFields_parameter (apart : NoColon rest) :
    declaredFields (code "pub" ++ typed.code ++ code "," ++ rest) =
      typed.name :: declaredFields rest := by
  have comma : (codeToken [',']).text? ≠ some "pub" := by decide
  change declaredFields (codeToken ['p', 'u', 'b'] :: typed.name :: codeToken [':'] :: typed.type ::
    codeToken [','] :: rest) = _
  rw [declaredFields, if_pos (by decide), declaredFields_type _ _ apart,
    declaredFields_cons comma]

theorem declaredFields_property :
    declaredFields (code "pub" ++ [typed.name] ++ code ":" ++ optionType typed.type ++ code "," ++
      rest) = typed.name :: declaredFields rest := by
  have before : ∀ tree ∈ code ":: std :: option :: Option <", tree.text? ≠ some "pub" := by decide
  have behind : ∀ tree ∈ code "> ,", tree.text? ≠ some "pub" := by decide
  change declaredFields (codeToken ['p', 'u', 'b'] :: typed.name :: codeToken [':'] ::
    (code ":: std :: option :: Option <" ++ (typed.type :: codeToken ['>'] ::
      codeToken [','] :: rest))) = _
  rw [declaredFields, if_pos (by decide), declaredFields_append before,
    declaredFields_type _ _ (by intro tree here; cases here; decide)]
  exact congrArg _ (declaredFields_append behind rest)

end Fields

theorem typedInputs_cons {rest : List SyntaxTree} (apart : NoColon rest) (tree : SyntaxTree) :
    typedInputs (tree :: rest) = typedInputs rest := by
  match rest with
  | [] | [_] => rfl
  | next :: _ :: _ =>
      have noColon : ¬(next.isPunct ":" = true) := by simpa using apart next rfl
      rw [typedInputs, if_neg noColon]

theorem noColon_withCommas {inputs : List TypedName}
    (words : ∀ typed ∈ inputs, IsWord typed.name) :
    NoColon (withCommas (inputs.map TypedName.code)) := by
  match inputs with
  | [] => exact fun tree here => absurd here (by simp [withCommas])
  | [typed] | typed :: _ :: _ =>
      intro tree here
      cases here
      obtain ⟨text, line, whole, same⟩ := words typed List.mem_cons_self
      rw [same]
      rfl

theorem typedInputs_withCommas {inputs : List TypedName}
    (words : ∀ typed ∈ inputs, IsWord typed.name) :
    typedInputs (withCommas (inputs.map TypedName.code)) = inputs.map (·.name) := by
  induction inputs with
  | nil => rfl
  | cons typed rest ih =>
      obtain ⟨-, words⟩ := List.forall_mem_cons.mp words
      cases rest with
      | nil => rfl
      | cons next rest =>
          change typedInputs (typed.name :: codeToken [':'] :: typed.type :: codeToken [','] ::
            withCommas ((next :: rest).map TypedName.code)) = typed.name :: _
          rw [← ih words, typedInputs, if_pos (by decide),
            typedInputs_cons (noColon_withCommas words)]

/-! ## Names in markers and extension methods -/

theorem declaredFields_properties (properties : List TypedName) :
    declaredFields (properties.flatMap fun typed =>
      code "pub" ++ [typed.name] ++ code ":" ++ optionType typed.type ++ code ",") =
      properties.map (·.name) := by
  induction properties with
  | nil => rfl
  | cons typed rest ih =>
      rw [List.flatMap_cons, declaredFields_property, ih]
      rfl

theorem noColon_properties (properties : List TypedName) :
    NoColon (properties.flatMap fun typed =>
      code "pub" ++ [typed.name] ++ code ":" ++ optionType typed.type ++ code ",") := by
  intro tree here
  cases properties with
  | nil => cases here
  | cons typed rest =>
      cases here
      decide

theorem declaredFields_parameters (parameters : List TypedName) {rest : List SyntaxTree}
    (apart : NoColon rest) :
    declaredFields ((parameters.flatMap fun typed => code "pub" ++ typed.code ++ code ",") ++
      rest) = parameters.map (·.name) ++ declaredFields rest := by
  induction parameters with
  | nil => rfl
  | cons typed more ih =>
      rw [List.flatMap_cons, List.append_assoc, declaredFields_parameter, ih]
      · rfl
      · cases more with
        | nil => exact apart
        | cons next more =>
            intro tree here
            cases here
            decide

namespace Marker

variable (marker : Marker)

def fieldIdentifiers : List (Option String) :=
  (declaredFields (groupIn .brace marker.structCode)).map identifierOf

def inputIdentifiers : List (Option String) :=
  (typedInputs (groupIn .parenthesis marker.newCode)).map identifierOf

theorem fieldIdentifiers_eq (word : IsWord marker.name) :
    marker.fieldIdentifiers =
      (marker.parameters ++ marker.properties).map fun typed => identifierOf typed.name := by
  have fields : declaredFields (groupIn .brace marker.structCode) =
      (marker.parameters ++ marker.properties).map (·.name) := by
    have body : groupIn .brace marker.structCode =
        (marker.parameters.flatMap fun typed =>
          Grammar.code "pub" ++ typed.code ++ Grammar.code ",") ++
          marker.properties.flatMap fun typed => Grammar.code "pub" ++ [typed.name] ++
            Grammar.code ":" ++ optionType typed.type ++ Grammar.code "," := by
      obtain ⟨text, line, whole, same⟩ := word
      rw [structCode, same]
      rfl
    rw [body, declaredFields_parameters _ (noColon_properties marker.properties),
      declaredFields_properties, List.map_append]
  rw [fieldIdentifiers, fields, List.map_map]
  rfl

theorem inputIdentifiers_eq
    (words : ∀ typed ∈ marker.parameters, IsWord typed.name) :
    marker.inputIdentifiers = marker.parameters.map fun typed => identifierOf typed.name := by
  have inputs : typedInputs (groupIn .parenthesis marker.newCode) =
      marker.parameters.map (·.name) := typedInputs_withCommas words
  rw [inputIdentifiers, inputs, List.map_map]
  rfl

end Marker

def Extension.inputIdentifiers (extension : Extension) : List (Option String) :=
  (typedInputs (groupIn .parenthesis extension.headCode)).map identifierOf

theorem Extension.inputIdentifiers_eq (extension : Extension)
    (word : IsWord extension.method) (words : ∀ typed ∈ extension.parameters, IsWord typed.name) :
    extension.inputIdentifiers =
      extension.parameters.map fun typed => identifierOf typed.name := by
  have inputs : typedInputs (groupIn .parenthesis extension.headCode) =
      extension.parameters.map (·.name) := by
    have group : groupIn .parenthesis extension.headCode =
        codeToken ['&'] :: codeToken ['m', 'u', 't'] :: codeToken ['s', 'e', 'l', 'f'] ::
          codeToken [','] :: withCommas (extension.parameters.map TypedName.code) := by
      obtain ⟨text, line, whole, same⟩ := word
      rw [headCode, same]
      rfl
    rw [← typedInputs_withCommas words, group]
    rw [typedInputs_cons, typedInputs_cons, typedInputs_cons,
      typedInputs_cons (noColon_withCommas words)] <;>
      exact fun tree here => by cases here; decide
  rw [inputIdentifiers, inputs, List.map_map]
  rfl

section Made

variable {module : ModuleDescriptor} {type : SyntaxTree}

theorem identifiers_of_mapM {parameters : List Parameter} {typed : List TypedName}
    (read : parameters.mapM (typedName module) = .ok typed) :
    (typed.map fun found => identifierOf found.name) =
        (parameters.map fun parameter => identifier? parameter.name) ∧
      ∀ found ∈ typed, IsWord found.name := by
  have each := Outcome.forall₂_of_mapM read
  clear read
  induction each with
  | nil => exact ⟨rfl, List.forall_mem_nil _⟩
  | cons made _ ih =>
      simp only [typedName, Outcome.bind_eq_ok_iff, Outcome.pure_eq_ok_iff] at made
      obtain ⟨name, named, type, -, rfl⟩ := made
      obtain ⟨same, word⟩ := namePart_ok named
      obtain ⟨identifiers, words⟩ := ih
      exact ⟨by rw [List.map_cons, List.map_cons, identifiers, same],
        List.forall_mem_cons.mpr ⟨word, words⟩⟩

theorem identifiers_of_markerOf {marker : Marker} (made : markerOf module type = .ok marker) :
    (marker.fieldIdentifiers =
      (module.constructor ++ module.properties).map fun parameter => identifier? parameter.name) ∧
    marker.inputIdentifiers =
      module.constructor.map fun parameter => identifier? parameter.name := by
  simp only [markerOf, Outcome.bind_eq_ok_iff, Outcome.pure_eq_ok_iff] at made
  obtain ⟨name, named, parameters, read, properties, readToo, rfl⟩ := made
  obtain ⟨fields, words⟩ := identifiers_of_mapM read
  constructor
  · rw [Marker.fieldIdentifiers_eq _ (namePart_ok named).2, List.map_append, List.map_append,
      fields, (identifiers_of_mapM readToo).1]
  · rw [Marker.inputIdentifiers_eq _ words, fields]

theorem identifiers_of_extensionOf {method : String} {extension : Extension}
    (made : extensionOf module type method = .ok extension) :
    extension.inputIdentifiers =
      module.constructor.map fun parameter => identifier? parameter.name := by
  simp only [extensionOf, Outcome.bind_eq_ok_iff, Outcome.pure_eq_ok_iff] at made
  obtain ⟨name, -, method, named, parameters, read, rfl⟩ := made
  obtain ⟨inputs, words⟩ := identifiers_of_mapM read
  rw [Extension.inputIdentifiers_eq _ (namePart_ok named).2 words, inputs]

variable {hasRegistrations : Bool} {facade : Facade}

theorem companions_of_facadeOf (made : facadeOf module hasRegistrations = .ok facade) :
    (∀ marker, facade.marker = some marker → markerOf module facade.type = .ok marker) ∧
      ∀ extension, facade.extension = some extension →
        ∃ method, extensionOf module facade.type method = .ok extension := by
  simp only [facadeOf, Outcome.bind_eq_ok_iff, Outcome.pure_eq_ok_iff] at made
  obtain ⟨type, -, _, -, _, -, _, -, marker?, marked, extension?, extended, rfl⟩ := made
  constructor
  · rintro marker rfl
    unfold markerIfAsked at marked
    split at marked
    · obtain ⟨found, made, same⟩ := Outcome.map_eq_ok_iff.mp marked
      exact Option.some.inj same ▸ made
    · cases marked
  · rintro extension rfl
    unfold extensionIfAsked at extended
    split at extended
    · obtain ⟨found, made, same⟩ := Outcome.map_eq_ok_iff.mp extended
      exact ⟨_, Option.some.inj same ▸ made⟩
    · cases extended

end Made

/-! ## Companions of discovered modules -/

/-- None of the names that are made up for some inputs is an identifier that they bind. -/
def Uninvented (inputs : List SyntaxTree) : Prop :=
  ∀ name ∈ boundNames inputs, ∀ other ∈ inventedNames inputs, identifier? name ≠ some other

/-- The properties of a module are different identifiers, and no parameter is one of them. -/
def PropertiesApart (module : ModuleDescriptor) : Prop :=
  (module.properties.map fun property => identifier? property.name).Nodup ∧
    ∀ parameter ∈ module.constructor, ∀ property ∈ module.properties,
      identifier? parameter.name ≠ identifier? property.name

/-- A name that is a word, no keyword and not raw. -/
def IsPlain (name : String) : Prop :=
  isWord name = true ∧ Ahead.keywords.contains name = false ∧ plainName name = name

/-- When the names that the companions of a module use are different, for a module whose parameters
are those of some inputs. -/
structure CompanionNames (inputs : List SyntaxTree) (module : ModuleDescriptor) : Prop where
  named : NamedBy inputs module
  parameters : (module.constructor.map (·.name)).Nodup ↔
    ∀ name ∈ boundNames inputs, name ∉ inventedNames inputs
  properties : (∀ parameter ∈ module.constructor ++ module.properties, IsPlain parameter.name) →
    (module.properties.map (·.name)).Nodup → PropertiesApart module
  fields : ∀ {hasRegistrations facade marker}, facadeOf module hasRegistrations = .ok facade →
    facade.marker = some marker →
      (marker.fieldIdentifiers.Nodup ↔ Uninvented inputs ∧ PropertiesApart module)
  markerInputs : ∀ {hasRegistrations facade marker},
    facadeOf module hasRegistrations = .ok facade → facade.marker = some marker →
      (marker.inputIdentifiers.Nodup ↔ Uninvented inputs)
  extensionInputs : ∀ {hasRegistrations facade extension},
    facadeOf module hasRegistrations = .ok facade → facade.extension = some extension →
      (extension.inputIdentifiers.Nodup ↔ Uninvented inputs)

section Names

variable {inputs : List SyntaxTree} {module : ModuleDescriptor}

theorem identifier?_of_isPlain {name : String} (plain : IsPlain name) :
    identifier? name = some name := by
  obtain ⟨word, free, same⟩ := plain
  rw [identifier?_of_isWord word free, same]

theorem propertiesApart_of_isPlain (named : NamedBy inputs module)
    (plain : ∀ parameter ∈ module.constructor ++ module.properties, IsPlain parameter.name)
    (distinct : (module.properties.map (·.name)).Nodup) : PropertiesApart module := by
  obtain ⟨parameters, properties⟩ := List.forall_mem_append.mp plain
  constructor
  · have names : (module.properties.map fun property => identifier? property.name) =
        (module.properties.map (·.name)).map some := by
      rw [List.map_map]
      exact List.map_congr_left fun property member =>
        identifier?_of_isPlain (properties property member)
    rw [names]
    exact distinct.map fun _ _ => Option.some.inj
  · intro parameter given property member same
    rw [identifier?_of_isPlain (parameters parameter given),
      identifier?_of_isPlain (properties property member), Option.some_inj] at same
    refine named.properties property member ?_
    rw [← named.parameters, ← same]
    exact List.mem_map_of_mem given

theorem companionNames_of_namedBy (named : NamedBy inputs module)
    (distinct : ((boundNames inputs).map identifier?).Nodup) : CompanionNames inputs module := by
  have identifiers : (module.constructor.map fun parameter => identifier? parameter.name).Nodup ↔
      Uninvented inputs := by
    have read : (module.constructor.map fun parameter => identifier? parameter.name) =
        (parameterNames inputs).map identifier? := by
      rw [← named.parameters, List.map_map]
      rfl
    rw [read, nodup_parameterNames_iff inputs identifier?]
    · simp only [distinct, true_and, Uninvented, inventedNames, List.forall_mem_map,
        identifier?_inventedName]
    · intro left right same
      rw [identifier?_inventedName, identifier?_inventedName, Option.some_inj] at same
      exact inventedName_inj same
  refine ⟨named, ?_, propertiesApart_of_isPlain named, ?_, ?_, ?_⟩
  · have texts := nodup_parameterNames_iff inputs id inventedName_inj
    rw [List.map_id, List.map_id] at texts
    rw [named.parameters, texts]
    simp only [distinct.of_map, true_and, id_eq]
    exact ⟨fun apart name bound invented => apart name bound name invented rfl,
      fun apart name bound other invented same => apart name bound (same ▸ invented)⟩
  · intro _ _ marker made marked
    have fields := (identifiers_of_markerOf ((companions_of_facadeOf made).1 marker marked)).1
    rw [fields, List.map_append, List.nodup_append, identifiers, PropertiesApart]
    simp only [List.forall_mem_map]
  · intro _ _ marker made marked
    rw [(identifiers_of_markerOf ((companions_of_facadeOf made).1 marker marked)).2, identifiers]
  · intro _ _ extension made extended
    obtain ⟨method, found⟩ := (companions_of_facadeOf made).2 extension extended
    rw [identifiers_of_extensionOf found, identifiers]

end Names

/-- Where every function binds different identifiers, the parameters of each discovered module have
different names, and its companions different fields and inputs, exactly if no name that is made up
for a parameter is bound by another parameter. The fields also have to be different as properties:
those of other names can still be one identifier if one of them is raw. -/
theorem companions_apart {settings : Settings} {sources : List SourceText}
    (distinct : ∀ inputs, IsGiven sources inputs → ((boundNames inputs).map identifier?).Nodup)
    {module : ModuleDescriptor}
    (found : (module, settings) ∈ (discover settings sources).modules) :
    ∃ inputs, IsGiven sources inputs ∧ CompanionNames inputs module := by
  obtain ⟨inputs, given, named⟩ := exists_namedBy_of_mem_modules found
  exact ⟨inputs, given, companionNames_of_namedBy named (distinct inputs given)⟩

/-- The names in the companions of a module. -/
structure NamesMade where
  parameters : List String
  properties : List String
  fields : Option (List (Option String))
  markerInputs : Option (List (Option String))
  extensionInputs : Option (List (Option String))
deriving DecidableEq

def namesMade (module : ModuleDescriptor) : NamesMade :=
  let facade := (facadeOf module false).toOption
  ⟨module.constructor.map (·.name), module.properties.map (·.name),
    (facade.bind (·.marker)).map Marker.fieldIdentifiers,
    (facade.bind (·.marker)).map Marker.inputIdentifiers,
    (facade.bind (·.extension)).map Extension.inputIdentifiers⟩

def namesOf (file : SyntaxTree) : List (List (Option String)) × List NamesMade :=
  ((signatures file).map fun signature => (boundNames signature.signatureInputs).map identifier?,
    (analyze .default [.collect "src/lib.rs" "crate" file]).modules.map namesMade)

def storeText : String :=
  "#[module(generate_attribute)]\npub struct Store \x7b pub depth: u8 \x7d\n" ++
    "impl Store \x7b fn new(_: u8, port: u16) -> Self \x7b open(port) \x7d \x7d"

theorem mem_modules_of_parseFile {text : String} {file : SyntaxTree}
    (parsed : parseFile text = .ok file) {module : ModuleDescriptor}
    (found : (analyze .default [.collect "src/lib.rs" "crate" file]).modules = [module]) :
    (module, Settings.default) ∈ (discover .default [⟨"src/lib.rs", text⟩]).modules := by
  have space : Files.namespaceOf Settings.default.rootNamespace (Files.relativeTo "src/lib.rs"
      Settings.default.sourcePath Settings.default.sourceDir) = "crate" := by decide +kernel
  have facts : parsedFacts .default [⟨"src/lib.rs", text⟩] =
      [.collect "src/lib.rs" "crate" file] := by
    simp [parsedFacts, factsOf, parsed, space, Except.toOption]
  simp [discover, facts, found]

theorem companions_apart_store :
    ∃ module, (module, Settings.default) ∈
        (discover .default [⟨"src/lib.rs", storeText⟩]).modules ∧
      namesMade module = ⟨["arg0", "port"], ["depth"],
        some [some "arg0", some "port", some "depth"], some [some "arg0", some "port"], none⟩ ∧
      ∃ inputs, IsGiven [⟨"src/lib.rs", storeText⟩] inputs ∧ CompanionNames inputs module := by
  have names : (parseFile storeText).toOption.map namesOf = some ([[some "port"]],
      [⟨["arg0", "port"], ["depth"], some [some "arg0", some "port", some "depth"],
        some [some "arg0", some "port"], none⟩]) := by
    decide +kernel
  obtain ⟨file, parsed, names⟩ := Option.map_eq_some_iff.mp names
  rw [Outcome.toOption_eq_some_iff] at parsed
  obtain ⟨bound, made⟩ := Prod.mk.inj names
  obtain ⟨module, here⟩ := List.length_eq_one_iff.mp (by simpa using congrArg List.length made)
  have found := mem_modules_of_parseFile parsed here
  refine ⟨module, found, ?_, companions_apart (fun inputs given => ?_) found⟩
  · rw [here] at made
    exact List.singleton_inj.mp made
  · rcases given with rfl | ⟨source, listed, tree, read, signature, written, rfl⟩
    · exact List.nodup_nil
    · obtain rfl := List.mem_singleton.mp listed
      obtain rfl : file = tree := Except.ok.inj (parsed.symm.trans read)
      have binds := List.mem_map_of_mem (f := fun signature : SyntaxTree =>
        (boundNames signature.signatureInputs).map identifier?) written
      rw [bound, List.mem_singleton] at binds
      rw [binds]
      decide

def clashingText : String :=
  "#[module(generate_attribute, use_method = \"add_web\")]\npub struct Web;\n" ++
    "impl Web \x7b fn new((a, b): (u8, u8), arg0: u8) -> Self \x7b Web \x7d \x7d"

def rawText : String :=
  "#[module(generate_attribute)]\npub struct Web \x7b pub r#port: u16 \x7d\n" ++
    "impl Web \x7b fn new(port: u16) -> Self \x7b Web \x7b port \x7d \x7d \x7d"

theorem companions_clash :
    (parseFile clashingText).toOption.map namesOf = some ([[some "arg0"]],
      [⟨["arg0", "arg0"], [], some [some "arg0", some "arg0"], some [some "arg0", some "arg0"],
        some [some "arg0", some "arg0"]⟩]) ∧
    (parseFile rawText).toOption.map namesOf = some ([[some "port"]],
      [⟨["port"], ["r#port"], some [some "port", some "port"], some [some "port"], none⟩]) := by
  constructor <;> decide +kernel

end Wiring.Generated
