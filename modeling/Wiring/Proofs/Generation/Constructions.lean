import Wiring.Proofs.Generation.Completeness

/-!
# Constructions in facades

A facade constructs each module that it refers to from as many arguments as the module takes, and
sets only properties that the module has.  The modules that the program entry adds are constructed
from nothing, whatever they take: see `Generator.generate_constructs` and `added_unfit`.
-/

set_option autoImplicit false

namespace Wiring.Generation

open Wiring.Generated
open Wiring.Grammar
open Wiring.Plan
open Wiring.Source

/-! ## References without problems -/

section References

variable {module target : ModuleDescriptor} {reference : ModuleReference}

theorem argumentProblems_eq_nil_iff :
    argumentProblems module reference target = [] ↔
      reference.arguments.length = target.constructor.length := by
  dsimp only [argumentProblems]
  cases given : reference.arguments with
  | nil =>
      cases taken : target.constructor <;>
        simp [ModuleDescriptor.isParameterized, taken]
  | cons first rest => simp

theorem propertyProblems_eq_nil_iff :
    propertyProblems module reference target = [] ↔
      ∀ override ∈ reference.properties,
        ∃ property ∈ target.properties, property.name = override.name := by
  simp [propertyProblems]

theorem problems_of_get? {graph : DependencyGraph} (quiet : referenceProblems graph module = [])
    (member : reference ∈ module.references)
    (known : graph.get? reference.module.fullName = some target) :
    argumentProblems module reference target = [] ∧
      propertyProblems module reference target = [] := by
  rw [referenceProblems, List.flatMap_eq_nil_iff] at quiet
  have own := quiet reference member
  rw [problemsOf, known] at own
  exact List.append_eq_nil_iff.mp own

end References

/-! ## Constructions -/

/-- A construction that gives a module what it takes: as many arguments as its constructor has
parameters, the default value exactly if it has none, and values for properties that it has. -/
structure Fits (module target : ModuleDescriptor) (construction : Construction) : Prop where
  arguments : construction.arguments.length = target.constructor.length
  base : construction.base =
    if target.constructor = [] then defaultValue construction.type
    else [construction.type] ++ code ":: new" ++
      [inParentheses (withCommas (construction.arguments.map fun argument => [argument]))]
  values : ∀ value ∈ construction.values,
    ∃ property ∈ target.properties, namePart module property.name = .ok value.1

def bare (type : SyntaxTree) : Construction :=
  ⟨type, [], []⟩

theorem code_bare (type : SyntaxTree) : (bare type).code = defaultValue type :=
  rfl

theorem fits_bare_iff (module target : ModuleDescriptor) (type : SyntaxTree) :
    Fits module target (bare type) ↔ target.constructor = [] := by
  constructor
  · intro fits
    exact List.length_eq_zero_iff.mp fits.arguments.symm
  · intro takesNothing
    refine ⟨by simp [bare, takesNothing], ?_, fun value member => absurd member List.not_mem_nil⟩
    rw [if_pos takesNothing]
    rfl

theorem base_eq {construction : Construction} {target : ModuleDescriptor}
    (arguments : construction.arguments.length = target.constructor.length) :
    construction.base =
      if target.constructor = [] then defaultValue construction.type
      else [construction.type] ++ code ":: new" ++
        [inParentheses (withCommas (construction.arguments.map fun argument => [argument]))] := by
  have empty : (construction.arguments.map fun argument => [argument]).isEmpty = true ↔
      target.constructor = [] := by
    rw [List.isEmpty_iff, List.map_eq_nil_iff, ← List.length_eq_zero_iff, arguments,
      List.length_eq_zero_iff]
  simp only [Construction.base, constructed, empty]

/-- What a reference is constructed from. -/
structure ConstructionParts (module : ModuleDescriptor) (reference : ModuleReference)
    (construction : Construction) : Prop where
  type : pathPart module reference.module.fullName = .ok construction.type
  arguments : List.Forall₂ (fun argument tree => exprPart module argument = .ok tree)
    reference.arguments construction.arguments
  values : List.Forall₂ (fun override value => namePart module override.name = .ok value.1 ∧
    exprPart module override.value = .ok value.2) reference.properties construction.values

theorem parts_of_constructionOf {module : ModuleDescriptor} {reference : ModuleReference}
    {construction : Construction} (made : constructionOf module reference = .ok construction) :
    ConstructionParts module reference construction := by
  simp only [constructionOf, Outcome.bind_eq_ok_iff, Outcome.pure_eq_ok_iff] at made
  obtain ⟨type, typed, arguments, argued, values, valued, rfl⟩ := made
  refine ⟨typed, Outcome.forall₂_of_mapM argued, (Outcome.forall₂_of_mapM valued).imp ?_⟩
  intro override value both
  simp only [Outcome.bind_eq_ok_iff, Outcome.pure_eq_ok_iff] at both
  obtain ⟨name, named, tree, treed, rfl⟩ := both
  exact ⟨named, treed⟩

theorem exists_of_forall₂_of_mem {α β : Type} {R : α → β → Prop} {left : List α} {right : List β}
    (related : List.Forall₂ R left right) {y : β} (member : y ∈ right) : ∃ x ∈ left, R x y := by
  induction related with
  | nil => exact absurd member List.not_mem_nil
  | cons first _ ih =>
      rcases List.mem_cons.mp member with rfl | later
      · exact ⟨_, List.mem_cons_self .., first⟩
      · obtain ⟨x, among, holds⟩ := ih later
        exact ⟨x, List.mem_cons_of_mem _ among, holds⟩

theorem ConstructionParts.fits {module target : ModuleDescriptor} {reference : ModuleReference}
    {construction : Construction} (parts : ConstructionParts module reference construction)
    (argued : argumentProblems module reference target = [])
    (valued : propertyProblems module reference target = []) :
    Fits module target construction := by
  have arguments : construction.arguments.length = target.constructor.length :=
    parts.arguments.length_eq.symm.trans (argumentProblems_eq_nil_iff.mp argued)
  refine ⟨arguments, base_eq arguments, ?_⟩
  intro value member
  obtain ⟨override, listed, named, -⟩ := exists_of_forall₂_of_mem parts.values member
  obtain ⟨property, declared, same⟩ := propertyProblems_eq_nil_iff.mp valued override listed
  exact ⟨property, declared, same ▸ named⟩

/-! ## Facades -/

/-- What a facade constructs: its references from what they give, which is what their modules take,
and the modules that the program entry adds from nothing. -/
structure Constructs (graph : DependencyGraph) (module : ModuleDescriptor) (facade : Facade) :
    Prop where
  references : List.Forall₂ (fun reference construction =>
      ConstructionParts module reference construction ∧
        ∀ target, graph.get? reference.module.fullName = some target →
          Fits module target construction)
    module.references facade.references
  extras : List.Forall₂ (fun extra type =>
      pathPart module extra.fullName = .ok type ∧
        ∀ target, graph.get? extra.fullName = some target →
          (Fits module target (bare type) ↔ target.constructor = []))
    module.additionalModules facade.extras
  /-- These constructions are the ones in the code. -/
  code : ∃ front back, facade.methodsCode = front ++
    Facade.referencesCode "referenced_modules" (facade.references.map Construction.code) ++
    Facade.referencesCode "extra_modules" ((facade.extras.map bare).map Construction.code) ++ back

theorem constructs_code (facade : Facade) :
    ∃ front back, facade.methodsCode = front ++
      Facade.referencesCode "referenced_modules" (facade.references.map Construction.code) ++
      Facade.referencesCode "extra_modules" ((facade.extras.map bare).map Construction.code) ++
      back := by
  refine ⟨function (Grammar.code "fn module_name") (Grammar.code "& self")
      (Grammar.code "-> & 'static str") [literalCode facade.id],
    Facade.applyCode facade.hasRegistrations ++ Facade.configureCode facade.configure ++
      Facade.equalityCode facade.autoEquality ++
      Facade.providerCode facade.features facade.featureOrder ++
      Facade.handlerCode facade.handles, ?_⟩
  have extras : (facade.extras.map bare).map Construction.code =
      facade.extras.map defaultValue := by
    rw [List.map_map]
    exact List.map_congr_left fun type _ => code_bare type
  simp only [extras, Facade.methodsCode, List.append_assoc]

theorem constructs_of_facadeOf {graph : DependencyGraph} {module : ModuleDescriptor}
    (quiet : referenceProblems graph module = []) {hasRegistrations : Bool} {facade : Facade}
    (made : facadeOf module hasRegistrations = .ok facade) : Constructs graph module facade := by
  simp only [facadeOf, Outcome.bind_eq_ok_iff, Outcome.pure_eq_ok_iff] at made
  obtain ⟨type, -, declared, -, references, referred, extras, added, marker, -, extension, -,
    rfl⟩ := made
  refine ⟨?_, ?_, constructs_code _⟩
  · have each := Outcome.forall₂_of_mapM referred
    refine ((List.forall₂_and_left _ _).mpr ⟨fun reference member => member, each⟩).imp ?_
    rintro reference construction ⟨member, constructed⟩
    have parts := parts_of_constructionOf constructed
    refine ⟨parts, fun target known => ?_⟩
    obtain ⟨argued, valued⟩ := problems_of_get? quiet member known
    exact parts.fits argued valued
  · refine (Outcome.forall₂_of_mapM added).imp ?_
    intro extra type typed
    exact ⟨typed, fun target _ => fits_bare_iff module target type⟩

theorem referenceProblems_of_files {graph : DependencyGraph} {services : List ServiceDescriptor}
    {settings : Settings} {module : ModuleDescriptor}
    (written : (plainUnits graph services settings module).files ≠ []) :
    referenceProblems graph module = [] := by
  unfold plainUnits at written
  cases quiet : (referenceProblems graph module).isEmpty with
  | true => exact List.isEmpty_iff.mp quiet
  | false =>
      rw [quiet] at written
      exact absurd rfl written

theorem constructs_of_renders {graph : DependencyGraph} {module : ModuleDescriptor}
    (quiet : referenceProblems graph module = []) {resolved : ResolvedModule}
    {files : List GeneratedFile} {problems : List Diagnostic}
    (renders : Renders module resolved files problems) (written : files ≠ []) :
    ∃ facade rest, files = .ofCode module.type.facadeFile facade.code :: rest ∧
      Constructs graph module facade := by
  cases renders with
  | plain facade made => exact ⟨facade, [], rfl, constructs_of_facadeOf quiet made⟩
  | registering facade unit made =>
      exact ⟨facade, [.ofCode module.type.registrationsFile unit.code], rfl,
        constructs_of_facadeOf quiet made⟩
  | reported => exact absurd rfl written

namespace Generator

/-- Whatever a generator has made before, the facade of each module that gets files constructs the
modules that it refers to as they ask for.  What the program entry adds is constructed as it asks
for exactly if it takes nothing. -/
theorem generate_constructs {generator : Generator} (made : generator.IsMade) {found : Discovery}
    {output : PassOutput} (success : (generator.generate found).1 = .ok output) :
    output = .ofBlocks found (consolidate found.modules).modules (generator.block found) ∧
      ∀ module ∈ (consolidate found.modules).modules, (generator.block found module).files ≠ [] →
        ∃ facade rest,
          (generator.block found module).files =
            .ofCode module.type.facadeFile facade.code :: rest ∧
          Constructs ⟨(consolidate found.modules).modules⟩ module facade := by
  refine ⟨eq_ofBlocks_of_generate success, ?_⟩
  intro module _ written
  have files := (made.block_alike found module).1
  exact constructs_of_renders (referenceProblems_of_files (files ▸ written))
    (renders_block made found module) written

theorem generate_constructs_gateway :
    ∃ output, ((ofSettings .default).generate small).1 = .ok output ∧
      output = .ofBlocks small (consolidate small.modules).modules
        ((ofSettings .default).block small) ∧
      ∃ facade rest, ((ofSettings .default).block small gateway).files =
          .ofCode gateway.type.facadeFile facade.code :: rest ∧
        Constructs ⟨(consolidate small.modules).modules⟩ gateway facade := by
  have made : (ofSettings .default).IsMade := ⟨.default, [], rfl⟩
  have success : ((ofSettings .default).generate small).1 =
      .ok (runPass .default small .empty).1 := rfl
  have written : ((ofSettings .default).block small gateway).files ≠ [] := by decide +kernel
  obtain ⟨blocks, facades⟩ := generate_constructs made success
  exact ⟨_, success, blocks, facades gateway (by decide) written⟩

end Generator

def entry : ModuleDescriptor :=
  { ModuleDescriptor.ofType (.of "crate" "ProgramModule") "src/main.rs" with
    autoGenerated := true
    additionalModules := [.of "crate" "Http"] }

def entered : Discovery :=
  discovered [entry, listener ⟨"port", "u16"⟩ []] []

/-- A module that the program entry adds may take what its construction does not give it, and no
problem is reported. -/
theorem added_unfit :
    ((Generator.ofSettings .default).block entered entry).problems = [] ∧
      ∃ (facade : Facade) (type : SyntaxTree),
        ((Generator.ofSettings .default).block entered entry).files =
          [.ofCode entry.type.facadeFile facade.code] ∧
        facade.extras = [type] ∧ pathPart entry "crate::Http" = .ok type ∧
        (DependencyGraph.mk (consolidate entered.modules).modules).get? "crate::Http" =
          some (listener ⟨"port", "u16"⟩ []) ∧
        ¬ Fits entry (listener ⟨"port", "u16"⟩ []) (bare type) := by
  have made : (Generator.ofSettings .default).IsMade := ⟨.default, [], rfl⟩
  have single : ((Generator.ofSettings .default).block entered entry).files.length = 1 := by
    decide +kernel
  have quiet : referenceProblems ⟨(consolidate entered.modules).modules⟩ entry = [] := by decide
  have known : (DependencyGraph.mk (consolidate entered.modules).modules).get? "crate::Http" =
      some (listener ⟨"port", "u16"⟩ []) := by decide
  obtain ⟨facade, rest, files, constructs⟩ :=
    constructs_of_renders quiet (Generator.renders_block made entered entry)
      (List.ne_nil_of_length_pos (single ▸ Nat.one_pos))
  rw [files, List.length_cons, Nat.succ_inj, List.length_eq_zero_iff] at single
  subst single
  obtain ⟨type, extras, ⟨typed, fits⟩, ended, all⟩ :=
    List.forall₂_cons_left_iff.mp constructs.extras
  rw [List.forall₂_nil_left_iff.mp ended] at all
  refine ⟨by decide +kernel, facade, type, files, all, typed, known, ?_⟩
  rw [fits _ known]
  decide

end Wiring.Generation
