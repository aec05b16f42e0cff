import Wiring.Proofs.Outcome
import Wiring.Source.Analysis

/-!
# What declarations record

A module descriptor and a registration, when there is one, hold what the attribute says, with each
path in it resolved where the item stands.
-/

set_option autoImplicit false

namespace Wiring.Source

open Wiring.Grammar

variable {index : Index} {settings : Settings} {file : FileFacts} {item : DeclaredItem}
  {found : FoundAttribute}

theorem ofSyntax_eq_ok_iff {α : Type} {path : String} {outcome : Except SyntaxError α}
    {value : α} : ofSyntax path outcome = .ok value ↔ outcome = .ok value := by
  cases outcome <;> simp [ofSyntax]

/-! ## Modules -/

/-- What a module descriptor holds of its item and of the arguments of its attribute. -/
structure RecordsModule (index : Index) (file : FileFacts) (item : DeclaredItem)
    (found : FoundAttribute) (given : ModuleArguments) (module : ModuleDescriptor) : Prop where
  type : module.type = item.type file
  line : module.line = found.line
  features : module.features = given.features.map (index.resolve (file.scope item.scope))
  handles : module.handles = given.handles.map (index.resolve (file.scope item.scope))
  references : module.references =
    given.dependsOn.map (reference index (file.scope item.scope))

/-- A module attribute gives a descriptor exactly if its item is not generic and its arguments can
be read. -/
theorem exists_moduleOf_iff :
    (∃ module, moduleOf index settings file item found = .ok module) ↔
      item.typeParameters = 0 ∧ ∃ given, moduleArguments found.tree = .ok given := by
  unfold moduleOf
  by_cases generic : 0 < item.typeParameters
  · rw [if_pos generic]
    constructor
    · rintro ⟨module, made⟩
      cases made
    · rintro ⟨plain, -⟩
      exact absurd plain (Nat.ne_of_gt generic)
  · simp only [if_neg generic, Outcome.bind_eq_ok_iff, Outcome.pure_eq_ok_iff, ofSyntax_eq_ok_iff]
    constructor
    · rintro ⟨module, given, read, -⟩
      exact ⟨Nat.eq_zero_of_not_pos generic, given, read⟩
    · rintro ⟨-, given, read⟩
      exact ⟨_, given, read, rfl⟩

theorem recordsModule_of_moduleOf {module : ModuleDescriptor}
    (made : moduleOf index settings file item found = .ok module) :
    ∃ given, moduleArguments found.tree = .ok given ∧
      RecordsModule index file item found given module := by
  unfold moduleOf at made
  split at made
  · cases made
  · simp only [Outcome.bind_eq_ok_iff, Outcome.pure_eq_ok_iff, ofSyntax_eq_ok_iff] at made
    obtain ⟨given, read, rfl⟩ := made
    exact ⟨given, read, rfl, rfl, rfl, rfl, rfl⟩

/-! ## Registrations -/

/-- What a registration holds of the arguments of its attribute, and the factory they name. -/
structure RecordsService (index : Index) (file : FileFacts) (item : DeclaredItem)
    (lifetime : Lifetime) (found : FoundAttribute) (given : ServiceArguments)
    (registration : RegistrationModel) (factory : Option String) : Prop where
  lifetime : registration.lifetime = lifetime
  line : registration.line = found.line
  service : registration.service.map TypeName.fullName =
    given.service.map fun path => (index.resolve (file.scope item.scope) path).fullName
  realm : registration.realm = given.realm.map (index.resolve (file.scope item.scope))
  factory : factory =
    given.factory.map fun path => (index.resolve (file.scope item.scope) path).fullName

/-- A service attribute gives a registration exactly if its arguments can be read and the service
type that they name leaves all its own arguments open. -/
theorem exists_registrationOf_iff {lifetime : Lifetime} :
    (∃ registration, registrationOf index file item lifetime found = .ok registration) ↔
      ∃ given, serviceArguments found.tree = .ok given ∧
        ∀ path, given.service = some path → (openArity path).isOk = true := by
  simp only [registrationOf, Outcome.bind_eq_ok_iff, ofSyntax_eq_ok_iff]
  constructor
  · rintro ⟨registration, given, read, made⟩
    refine ⟨given, read, fun path names => ?_⟩
    simp only [names, Outcome.bind_eq_ok_iff, ofSyntax_eq_ok_iff] at made
    obtain ⟨arity, counted, -⟩ := made
    rw [counted]
    rfl
  · rintro ⟨given, read, isOpen⟩
    cases names : given.service with
    | none => exact ⟨_, given, read, by simp only [names]; rfl⟩
    | some path =>
        obtain ⟨arity, counted⟩ := Outcome.exists_of_isOk (isOpen path names)
        exact ⟨_, given, read, by simp only [names, counted]; rfl⟩

theorem recordsService_of_registrationOf {lifetime : Lifetime}
    {registration : RegistrationModel} {factory : Option String}
    (made : registrationOf index file item lifetime found = .ok (registration, factory)) :
    ∃ given, serviceArguments found.tree = .ok given ∧
      RecordsService index file item lifetime found given registration factory := by
  simp only [registrationOf, Outcome.bind_eq_ok_iff, ofSyntax_eq_ok_iff] at made
  obtain ⟨given, read, made⟩ := made
  refine ⟨given, read, ?_⟩
  cases named : given.service with
  | none =>
      simp only [named, Outcome.bind_eq_ok_iff, Outcome.pure_eq_ok_iff, Prod.mk.injEq] at made
      obtain ⟨-, rfl, rfl, rfl⟩ := made
      exact ⟨rfl, rfl, by rw [named]; rfl, rfl, rfl⟩
  | some path =>
      simp only [named, Outcome.bind_eq_ok_iff, Outcome.pure_eq_ok_iff, ofSyntax_eq_ok_iff,
        Prod.mk.injEq] at made
      obtain ⟨arity, -, -, rfl, rfl, rfl⟩ := made
      exact ⟨rfl, rfl, by rw [named]; rfl, rfl, rfl⟩

end Wiring.Source
