import Wiring.Proofs.Generated.Decoding
import Wiring.Proofs.Generated.Glue
import Wiring.Proofs.Source.References

/-!
# Keys that factories ask for

A glue function asks the container for an argument under the path that the type of its parameter
resolves to.  A service that is registered under its own type has a key that also shows the type
parameters of its declaration, so it is asked for under its key exactly if it has none: see
`lookups_meet`.
-/

set_option autoImplicit false

namespace Wiring

theorem TypeName.key_eq_fullName_iff (type : TypeName) :
    type.key = type.fullName ↔ type.arity = 0 := by
  unfold TypeName.key TypeName.isOpen
  rcases Nat.eq_zero_or_pos type.arity with closed | parameters
  · simp [closed]
  · rw [if_pos (by simpa using parameters)]
    constructor
    · intro same
      have lengths := congrArg String.length same
      simp only [String.length_append] at lengths
      have bracket : "<".length = 1 := by decide
      omega
    · intro closed
      omega

namespace Source

open Wiring.Grammar

/-! ## Discovered services -/

section Discovered

variable {settings : Settings} {sources : List SourceText}

theorem mem_services_serviceFindings {index : Index} {file : FileFacts} {item : DeclaredItem}
    {service : ServiceDescriptor} :
    service ∈ (serviceFindings index file item).services ↔
      serviceOf index file item = .ok (some service) := by
  unfold serviceFindings
  cases made : serviceOf index file item with
  | error failure => simp [Findings.problem]
  | ok service? =>
      cases service? with
      | none => simp [Findings.none]
      | some found => simp [eq_comm]

theorem mem_services_discover {service : ServiceDescriptor} :
    service ∈ (discover settings sources).services ↔
      ∃ file ∈ parsedFacts settings sources, ∃ item ∈ file.items,
        serviceOf (tables settings sources) file item = .ok (some service) := by
  have program : ∀ file,
      (programFindings (tables settings sources) settings file).services = [] := by
    intro file
    unfold programFindings
    split <;> rfl
  change service ∈ (Findings.concat ((parsedFacts settings sources).map
    (fileFindings (tables settings sources) settings))).services ↔ _
  simp only [services_concat, fileFindings, Findings.append, program, services_itemFindings,
    List.nil_append, List.append_nil, List.mem_flatMap, mem_services_serviceFindings]

end Discovered

/-! ## Parameters of factories -/

/-- The path of the service that a parameter of a type asks for: of the type that is shared, or of
the type itself. -/
def askedPath? (type : SyntaxTree) : Option SyntaxTree :=
  if isContainerType type.text || type.hasKind .referenceType then none
  else ((sharedInner? type).getD type).typePath?

section Factories

variable {index : Index} {file : FileFacts} {item : DeclaredItem} {factory : FactoryMethod}

theorem source_of_factoryParameter {scope : Scope} {name : String} {type path : SyntaxTree}
    {parameter : FactoryParameter} (asked : askedPath? type = some path)
    (made : factoryParameter index scope name type = .ok parameter) :
    ∃ text, parameter.source = .shared text (index.resolve scope path) ∨
      parameter.source = .cloned text (index.resolve scope path) := by
  unfold askedPath? at asked
  unfold factoryParameter at made
  split at asked
  · cases asked
  · rename_i owned
    rw [Bool.or_eq_true, not_or] at owned
    rw [if_neg owned.1, if_neg owned.2] at made
    cases shared : sharedInner? type with
    | some inner =>
        rw [shared, Option.getD_some] at asked
        simp only [shared, asked, Except.ok.injEq] at made
        subst made
        exact ⟨_, .inl rfl⟩
    | none =>
        rw [shared, Option.getD_none] at asked
        simp only [shared, asked, Except.ok.injEq] at made
        subst made
        exact ⟨_, .inr rfl⟩

theorem forall₂_of_factoryParameters {scope : Scope} {inputs : List (String × SyntaxTree)}
    {parameters : List FactoryParameter}
    (made : factoryParameters index scope inputs = .ok parameters) :
    List.Forall₂ (fun input parameter =>
      factoryParameter index scope input.1 input.2 = .ok parameter) inputs parameters := by
  induction inputs generalizing parameters with
  | nil =>
      obtain rfl := Except.ok.inj made
      exact .nil
  | cons input rest ih =>
      obtain ⟨name, type⟩ := input
      simp only [factoryParameters, Outcome.bind_eq_ok_iff, Outcome.pure_eq_ok_iff] at made
      obtain ⟨first, one, more, others, rfl⟩ := made
      exact .cons one (ih others)

/-- The factory of a service is a function that is known by its path, with a source for each of its
inputs. -/
theorem function_of_factoryOf {service : TypeName} {path : String} {line : Nat}
    (made : factoryOf index file service path line = .ok factory) :
    ∃ home found, index.function? factory.path = some (home, found) ∧
      factoryParameters index (home.scope found.scope) found.inputs = .ok factory.parameters := by
  unfold factoryOf at made
  cases known : index.function? path with
  | none =>
      rw [known] at made
      cases made
  | some entry =>
      obtain ⟨home, found⟩ := entry
      cases receiver : found.hasReceiver with
      | true =>
          simp only [known, receiver, if_pos] at made
          cases made
      | false =>
          cases read : factoryParameters index (home.scope found.scope) found.inputs with
          | error message =>
              simp only [known, receiver, read, Bool.false_eq_true, if_false] at made
              cases made
          | ok parameters =>
              simp only [known, receiver, read, Bool.false_eq_true, if_false] at made
              split at made
              · cases made
              · obtain rfl := Outcome.pure_eq_ok_iff.mp made
                exact ⟨home, found, known, read⟩

theorem factoryOf_of_serviceOf {service : ServiceDescriptor}
    (made : serviceOf index file item = .ok (some service))
    (has : service.factory = some factory) :
    ∃ type path line, factoryOf index file type path line = .ok factory := by
  simp only [serviceOf, Outcome.bind_eq_ok_iff] at made
  obtain ⟨gathered, -, made⟩ := made
  split at made
  · cases Outcome.pure_eq_ok_iff.mp made
  · split at made
    · simp only [Outcome.bind_eq_ok_iff, Outcome.pure_eq_ok_iff] at made
      obtain ⟨_, rfl, same⟩ := made
      obtain rfl := Option.some.inj same
      cases has
    · simp only [Outcome.bind_eq_ok_iff, Outcome.pure_eq_ok_iff] at made
      obtain ⟨found, made, _, rfl, same⟩ := made
      obtain rfl := Option.some.inj same
      obtain rfl : found = factory := Option.some.inj has
      exact ⟨_, _, _, made⟩

end Factories
end Source

namespace Generated

open Wiring.Container
open Wiring.Grammar
open Wiring.Plan
open Wiring.Source

/-! ## Look-ups -/

def lookupCode (type : SyntaxTree) (key : String) : List SyntaxTree :=
  code "resolver . require :: <" ++ [type] ++ code ">" ++
    [inParentheses (code "&" ++ keyCode key)] ++ code "?"

/-- Code of an argument that is looked up under a key: a shared instance or a copy of it. -/
inductive LooksUp (key : String) : List SyntaxTree → Prop where
  | shared (type : SyntaxTree) : LooksUp key (lookupCode type key)
  | cloned (type : SyntaxTree) :
      LooksUp key (code ":: std :: clone :: Clone :: clone" ++
        [inParentheses (code "& *" ++ lookupCode type key)])

theorem keyCode_inj {left right : String} (same : keyCode left = keyCode right) : left = right := by
  have read := (denotes_key left).reads []
  rw [same, (denotes_key right).reads []] at read
  simpa [eq_comm] using read

theorem lookupCode_inj {leftType rightType : SyntaxTree} {left right : String}
    (same : lookupCode leftType left = lookupCode rightType right) : left = right := by
  have front :
      [leftType] ++ (code ">" ++ ([inParentheses (code "&" ++ keyCode left)] ++ code "?")) =
        [rightType] ++ (code ">" ++ ([inParentheses (code "&" ++ keyCode right)] ++ code "?")) := by
    simpa only [lookupCode, List.append_assoc, List.append_cancel_left_eq] using same
  have back := List.append_cancel_left (List.append_inj_right front rfl)
  have body := List.append_cancel_right back
  simp only [inParentheses, List.cons.injEq, SyntaxTree.group.injEq, true_and, and_true] at body
  exact keyCode_inj (List.append_cancel_left body)

theorem LooksUp.key_unique {left right : String} {trees : List SyntaxTree}
    (leftLooks : LooksUp left trees) (rightLooks : LooksUp right trees) : left = right := by
  -- A look-up ends with a question mark, a copy with a group.
  have apart : ∀ body, code "?" ≠ [inParentheses body] := by
    intro body same
    have token : code "?" = [.ofText .punct "?"] := rfl
    rw [token, SyntaxTree.ofText, List.cons.injEq] at same
    split at same
    · cases same.1
    · cases same.1
  have ends : ∀ front front' body, front ++ code "?" ≠ front' ++ [inParentheses body] := by
    intro front front' body same
    exact apart body (List.append_inj_right' same rfl)
  generalize whole : trees = other at rightLooks
  cases leftLooks with
  | shared leftType =>
      cases rightLooks with
      | shared rightType => exact lookupCode_inj whole
      | cloned rightType => exact absurd whole (ends _ _ _)
  | cloned leftType =>
      cases rightLooks with
      | shared rightType => exact absurd whole.symm (ends _ _ _)
      | cloned rightType =>
          have body := List.append_cancel_left whole
          simp only [inParentheses, List.cons.injEq, SyntaxTree.group.injEq, true_and,
            and_true] at body
          exact lookupCode_inj (List.append_cancel_left body)

theorem looksUp_of_argumentCode {module : ModuleDescriptor} {source : ParameterSource}
    {trees : List SyntaxTree} {text : String} {service : TypeName}
    (asks : source = .shared text service ∨ source = .cloned text service)
    (made : argumentCode module source = .ok trees) : LooksUp service.key trees := by
  rcases asks with rfl | rfl
  · obtain ⟨type, -, rfl⟩ := Outcome.map_eq_ok_iff.mp made
    exact .shared type
  · obtain ⟨type, -, rfl⟩ := Outcome.map_eq_ok_iff.mp made
    exact .cloned type

theorem exists_mem_zip {α β : Type} {items : List α} {images : List β} {item : α}
    (member : item ∈ items) (lengths : items.length = images.length) :
    ∃ image, (item, image) ∈ items.zip images := by
  rw [← List.map_fst_zip lengths.le, List.mem_map] at member
  obtain ⟨⟨_, image⟩, paired, rfl⟩ := member
  exact ⟨image, paired⟩

theorem arguments_of_glueOf {module : ModuleDescriptor} {factory : FactoryMethod} {glue : Glue}
    (made : glueOf module factory = .ok glue) :
    List.Forall₂ (fun parameter trees => argumentCode module parameter.source = .ok trees)
      factory.parameters glue.arguments := by
  simp only [glueOf, Outcome.bind_eq_ok_iff, Outcome.pure_eq_ok_iff] at made
  obtain ⟨name, -, path, -, arguments, mapped, rfl⟩ := made
  exact Outcome.forall₂_of_mapM mapped

/-! ## Registered keys -/

/-- A service whose registrations are all made under its own type. -/
structure OwnType (service : ServiceDescriptor) : Prop where
  contracts : service.contracts = []
  plain : ∀ registration ∈ service.registrations, registration.service = none

section Registered

variable {module : ModuleDescriptor} {projectVerb : Option Verb} {service : ServiceDescriptor}

theorem OwnType.serviceType_eq (own : OwnType service) {registration : RegistrationModel}
    (member : registration ∈ service.registrations) :
    service.serviceType registration = service.implementation := by
  rw [ServiceDescriptor.serviceType, own.plain registration member, own.contracts]
  rfl

theorem OwnType.service_of_mem (own : OwnType service) {resolved : ResolvedRegistration}
    (member : resolved ∈ resolveService module projectVerb service) :
    resolved.service = service.implementation := by
  simp only [resolveService, List.mem_flatMap] at member
  obtain ⟨realm, -, member⟩ := member
  unfold resolveRealm at member
  split at member
  · rw [List.mem_singleton.mp member]
  · obtain ⟨registration, grouped, rfl⟩ := List.mem_map.mp member
    exact own.serviceType_eq (mem_applicable.mp (List.mem_of_mem_filter grouped)).1

theorem exists_mem_resolveService {registration : RegistrationModel}
    (member : registration ∈ service.registrations) (applies : Applies module registration) :
    ∃ resolved, resolved ∈ resolveService module projectVerb service := by
  have grouped : registration ∈
      (applicable module service).filter (·.realm == registration.realm) :=
    List.mem_filter.mpr ⟨mem_applicable.mpr ⟨member, applies⟩, beq_self_eq_true _⟩
  have realm : registration.realm ∈ distinct ((applicable module service).map (·.realm)) := by
    rw [mem_distinct]
    exact List.mem_map_of_mem (mem_applicable.mpr ⟨member, applies⟩)
  have some : ∃ resolved, resolved ∈ resolveRealm module projectVerb service
      ((applicable module service).filter (·.realm == registration.realm)) := by
    unfold resolveRealm
    split
    · exact ⟨_, List.mem_singleton_self _⟩
    · exact ⟨_, List.mem_map_of_mem grouped⟩
  obtain ⟨resolved, made⟩ := some
  exact ⟨resolved, List.mem_flatMap.mpr ⟨registration.realm, realm, made⟩⟩

theorem operationRegistration_ofVerb (verb : Verb) (registration : Registration) :
    operationRegistration (.ofVerb verb registration) = registration := by
  cases verb with
  | add =>
      cases keyed : registration.key.isSome <;>
        simp [Operation.ofVerb, keyed, operationRegistration]
  | _ => rfl

theorem operationRegistration_toOperation (resolved : ResolvedRegistration) :
    operationRegistration resolved.toOperation = resolved.toRegistration := by
  unfold ResolvedRegistration.toOperation
  cases resolved.crossWire with
  | some contracts => rfl
  | none => exact operationRegistration_ofVerb _ _

end Registered

/-! ## Where look-ups and registrations meet -/

section Meeting

variable (settings : Settings) (sources : List SourceText)

/-- An item of some sources that declares a service. -/
def DeclaresService (item : DeclaredItem) (service : ServiceDescriptor) : Prop :=
  ∃ file ∈ parsedFacts settings sources, item ∈ file.items ∧
    serviceOf (tables settings sources) file item = .ok (some service)

/-- A factory of a discovered service, one of its parameters, and the type that the path of this
parameter resolves to where the factory is declared. -/
structure Asks (factory : FactoryMethod) (parameter : FactoryParameter) (asked : TypeName) :
    Prop where
  discovered : ∃ maker ∈ (discover settings sources).services, maker.factory = some factory
  written : ∃ home found name type path,
    (tables settings sources).function? factory.path = some (home, found) ∧
      ((name, type), parameter) ∈ found.inputs.zip factory.parameters ∧
      askedPath? type = some path ∧
      asked = (tables settings sources).resolve (home.scope found.scope) path

/-- How a parameter meets the service of its type. -/
structure LookupMeets (item : DeclaredItem) (service : ServiceDescriptor) (factory : FactoryMethod)
    (parameter : FactoryParameter) : Prop where
  /-- The service is registered wherever one of its registrations applies. -/
  registered : ∀ module projectVerb,
    (∃ registration ∈ service.registrations, Applies module registration) →
      ∃ resolved ∈ resolveService module projectVerb service,
        resolved ∈ (resolveModule module (discover settings sources).services
          projectVerb).registrations
  /-- The glue function of the factory looks its argument up. -/
  lookedUp : ∀ module glue, glueOf module factory = .ok glue →
    (∃ trees, (parameter, trees) ∈ factory.parameters.zip glue.arguments) ∧
      ∀ trees, (parameter, trees) ∈ factory.parameters.zip glue.arguments →
        ∃ key, LooksUp key trees
  /-- It does so under the key of the registrations exactly if the service has no type
  parameters. -/
  meets : ∀ module glue trees key, glueOf module factory = .ok glue →
    (parameter, trees) ∈ factory.parameters.zip glue.arguments → LooksUp key trees →
      ∀ other projectVerb, ∀ resolved ∈ resolveService other projectVerb service,
        (key = (operationRegistration resolved.toOperation).service ↔ item.typeParameters = 0)

variable {settings sources}

theorem Asks.source {factory : FactoryMethod} {parameter : FactoryParameter} {asked : TypeName}
    (asks : Asks settings sources factory parameter asked) :
    parameter ∈ factory.parameters ∧ asked.arity = 0 ∧
      ∃ text, parameter.source = .shared text asked ∨ parameter.source = .cloned text asked := by
  obtain ⟨maker, listed, has⟩ := asks.discovered
  obtain ⟨home, found, name, type, path, known, given, written, rfl⟩ := asks.written
  obtain ⟨file, -, item, -, made⟩ := mem_services_discover.mp listed
  obtain ⟨_, _, _, made⟩ := factoryOf_of_serviceOf made has
  obtain ⟨home', found', known', read⟩ := function_of_factoryOf made
  obtain ⟨rfl, rfl⟩ : home = home' ∧ found = found' := by
    have same := Option.some.inj (known.symm.trans known')
    exact ⟨congrArg Prod.fst same, congrArg Prod.snd same⟩
  have one := (List.forall₂_iff_zip.mp (forall₂_of_factoryParameters read)).2 given
  refine ⟨(List.of_mem_zip given).2, ?_, source_of_factoryParameter written one⟩
  unfold Index.resolve resolveType TypeName.ofPath
  split <;> rfl

/-- A factory asks for a service that is registered under its own type under the path of that type,
which is the key of the service exactly if it has no type parameters. -/
theorem lookups_meet {item : DeclaredItem} {service : ServiceDescriptor} {factory : FactoryMethod}
    {parameter : FactoryParameter} {asked : TypeName}
    (declares : DeclaresService settings sources item service) (own : OwnType service)
    (asks : Asks settings sources factory parameter asked)
    (same : asked.fullName = service.implementation.fullName) :
    LookupMeets settings sources item service factory parameter := by
  obtain ⟨file, parsed, listed, made⟩ := declares
  obtain ⟨member, closed, text, source⟩ := asks.source
  have arguments : ∀ {module glue trees}, glueOf module factory = .ok glue →
      (parameter, trees) ∈ factory.parameters.zip glue.arguments → LooksUp asked.key trees := by
    intro module glue trees glued given
    have argument := (List.forall₂_iff_zip.mp (arguments_of_glueOf glued)).2 given
    exact looksUp_of_argumentCode source argument
  refine ⟨?registered, ?lookedUp, ?meets⟩
  case registered =>
    rintro module projectVerb ⟨registration, given, applies⟩
    obtain ⟨resolved, stands⟩ :
        ∃ resolved, resolved ∈ resolveService module projectVerb service :=
      exists_mem_resolveService given applies
    have discovered : service ∈ (discover settings sources).services :=
      mem_services_discover.mpr ⟨file, parsed, item, listed, made⟩
    refine ⟨resolved, stands, ?_⟩
    rw [registrations_eq]
    exact List.mem_flatMap.mpr ⟨service, List.mem_mergeSort.mpr discovered, stands⟩
  case lookedUp =>
    intro module glue glued
    obtain ⟨trees, given⟩ := exists_mem_zip member (arguments_of_glueOf glued).length_eq
    exact ⟨⟨trees, given⟩, fun trees given => ⟨asked.key, arguments glued given⟩⟩
  case meets =>
    intro module glue trees key glued given looksUp other projectVerb resolved stands
    -- A resolved path carries no type parameters, whatever the item declares.
    have named : asked.key = asked.fullName := (TypeName.key_eq_fullName_iff asked).mpr closed
    obtain ⟨gathered, -, -, -, type⟩ := gatherAll_of_serviceOf _ _ _ made
    have parameters : service.implementation.arity = item.typeParameters := by rw [type]
    rw [looksUp.key_unique (arguments glued given), operationRegistration_toOperation,
      ResolvedRegistration.toRegistration, own.service_of_mem stands, named, same, ← parameters,
      eq_comm]
    exact TypeName.key_eq_fullName_iff service.implementation

end Meeting

/-! ## A service that a factory asks for -/

def usersText : SourceText :=
  ⟨"src/users.rs",
    "use crate::repo::Repo; #[singleton(factory = create)] struct Users; " ++
      "fn create(repo: Arc<Repo>) -> Users \x7b Users \x7d"⟩

def repoText : SourceText :=
  ⟨"src/repo.rs", "#[singleton] struct Repo;"⟩

def asksFor (index : Index) (path fullName : String) : Bool :=
  match index.function? path with
  | some (home, found) =>
      match found.inputs with
      | [(_, type)] =>
          match askedPath? type with
          | some path => (index.resolve (home.scope found.scope) path).fullName == fullName
          | none => false
      | _ => false
  | none => false

theorem asks_of_asksFor {settings : Settings} {sources : List SourceText}
    {factory : FactoryMethod} {parameter : FactoryParameter} {fullName : String}
    (discovered : ∃ maker ∈ (discover settings sources).services, maker.factory = some factory)
    (only : factory.parameters = [parameter])
    (asksFor : asksFor (tables settings sources) factory.path fullName) :
    ∃ asked, Asks settings sources factory parameter asked ∧ asked.fullName = fullName := by
  unfold Generated.asksFor at asksFor
  split at asksFor
  · rename_i home found known
    split at asksFor
    · rename_i name type inputs
      split at asksFor
      · rename_i path written
        refine ⟨_, ⟨discovered, home, found, name, type, path, known, ?_, written, rfl⟩, ?_⟩
        · rw [inputs, only]
          exact List.mem_singleton_self _
        · exact beq_iff_eq.mp asksFor
      · cases asksFor
    · cases asksFor
  · cases asksFor

def oneSingleton (type : TypeName) (file : String) (factory : Option FactoryMethod) :
    ServiceDescriptor :=
  ⟨type, file, [], [{ RegistrationModel.ofLifetime .singleton with line := 1 }], factory⟩

def repo : ServiceDescriptor :=
  oneSingleton (.of "crate::repo" "Repo") "src/repo.rs" none

def createUsers : FactoryMethod :=
  ⟨"crate::users::create", [.shared "repo" "crate :: repo :: Repo" (.of "crate::repo" "Repo")]⟩

theorem lookups_meet_repo :
    ∃ item parameter asked, DeclaresService .default [usersText, repoText] item repo ∧
      OwnType repo ∧ Asks .default [usersText, repoText] createUsers parameter asked ∧
      asked.fullName = repo.implementation.fullName ∧
      LookupMeets .default [usersText, repoText] item repo createUsers parameter := by
  have evaluated : (discover .default [usersText, repoText]).services =
        [oneSingleton (.of "crate::users" "Users") "src/users.rs" (some createUsers), repo] ∧
      asksFor (tables .default [usersText, repoText]) createUsers.path
        repo.implementation.fullName = true := by
    decide +kernel
  obtain ⟨services, asksFor⟩ := evaluated
  have found : repo ∈ (discover .default [usersText, repoText]).services := by simp [services]
  obtain ⟨file, parsed, item, listed, made⟩ := mem_services_discover.mp found
  have own : OwnType repo := ⟨rfl, by decide⟩
  have discovered : ∃ maker ∈ (discover .default [usersText, repoText]).services,
      maker.factory = some createUsers := by
    rw [services]
    exact ⟨_, List.mem_cons_self, rfl⟩
  have declares : DeclaresService .default [usersText, repoText] item repo :=
    ⟨file, parsed, listed, made⟩
  obtain ⟨asked, asks, same⟩ := asks_of_asksFor discovered rfl asksFor
  exact ⟨item, _, asked, declares, own, asks, same, lookups_meet declares own asks same⟩

def parametricUsersText : SourceText :=
  ⟨"src/users.rs",
    "use crate::repo::Repo; #[singleton(factory = create)] struct Users; " ++
      "fn create(repo: Arc<Repo<u8>>) -> Users \x7b Users \x7d"⟩

def parametricRepoText : SourceText :=
  ⟨"src/repo.rs", "#[singleton] struct Repo<T>(T);"⟩

def createParametricUsers : FactoryMethod :=
  ⟨"crate::users::create",
    [.shared "repo" "crate :: repo :: Repo < u8 >" (.of "crate::repo" "Repo")]⟩

/-- A service with a type parameter is registered under one key and asked for under another. -/
theorem parametric_missed :
    discover .default [parametricUsersText, parametricRepoText] =
        ⟨[], [oneSingleton (.of "crate::users" "Users") "src/users.rs"
            (some createParametricUsers),
          oneSingleton ⟨"crate::repo", "Repo", 1⟩ "src/repo.rs" none], [], 2⟩ ∧
      (resolveService (.ofType (.of "crate" "App") "src/lib.rs") none
          (oneSingleton ⟨"crate::repo", "Repo", 1⟩ "src/repo.rs" none)).map
        (fun resolved => (operationRegistration resolved.toOperation).service) =
          ["crate::repo::Repo<_>"] ∧
      (glueOf (.ofType (.of "crate" "App") "src/lib.rs") createParametricUsers).toOption.map
        (fun glue => glue.arguments.map SyntaxTree.textOf) =
          some ["resolver . require :: < crate :: repo :: Repo < u8 > > " ++
            "(& :: wiregen :: runtime :: TypeKey :: named (\"crate::repo::Repo\")) ?"] := by
  decide +kernel

end Generated
end Wiring
