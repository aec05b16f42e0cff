import Wiring.Proofs.Files.Canonical
import Wiring.Proofs.Generated.Relocation
import Wiring.Proofs.Plan.Resolution

/-!
# Units of equal inputs

Inputs that are the same but for the spelling of paths have the same units, and diagnostics that
differ in the spelling of their paths at most.
-/

set_option autoImplicit false

namespace Wiring

open Wiring.Files

def Diagnostic.canonical (diagnostic : Diagnostic) : Diagnostic :=
  { diagnostic with path := Files.canonical diagnostic.path }

theorem Diagnostic.canonical_ofFailure {left right : String} (failure : Failure)
    (same : Files.canonical left = Files.canonical right) :
    (Diagnostic.ofFailure left (failure.movedTo left)).canonical =
      (Diagnostic.ofFailure right (failure.movedTo right)).canonical := by
  cases failure <;>
    simp only [Failure.movedTo, Diagnostic.ofFailure, Diagnostic.canonical, same]

namespace Generation

open Wiring.Plan

def UnitsOutput.canonical (output : UnitsOutput) : UnitsOutput :=
  ⟨output.files, output.diagnostics.map Diagnostic.canonical⟩

/-! ## Registrations -/

/-- Where services were found does not show in what they register. -/
theorem resolveModule_map_canonicalService (module : ModuleDescriptor)
    (services : List ServiceDescriptor) (projectVerb : Option Verb) :
    resolveModule module (services.map canonicalService) projectVerb =
      resolveModule module services projectVerb :=
  resolveModule_map projectVerb services fun _ => ⟨rfl, rfl, rfl, rfl⟩

/-! ## Equal inputs -/

/-- Equal inputs are those of one module at two files, and settle the same registrations. -/
theorem relocated_of_same {left right : UnitsInput} (same : left.same right = true) :
    right.module = left.module.movedTo right.module.sourceFile ∧
      Files.canonical left.module.sourceFile = Files.canonical right.module.sourceFile ∧
      right.resolved = left.resolved := by
  have inputs : left.canonical = right.canonical := by
    simpa [UnitsInput.same] using same
  simp only [UnitsInput.canonical, UnitsInput.mk.injEq] at inputs
  obtain ⟨modules, services, settings⟩ := inputs
  have moved : right.module = left.module.movedTo right.module.sourceFile :=
    (congrArg (fun module => module.movedTo right.module.sourceFile) modules).symm
  have verb : left.settings.defaultVerb = right.settings.defaultVerb :=
    show (canonicalSettings left.settings).defaultVerb =
      (canonicalSettings right.settings).defaultVerb by rw [settings]
  refine ⟨moved, congrArg ModuleDescriptor.sourceFile modules, ?_⟩
  calc right.resolved
      = resolveModule right.module (right.services.map canonicalService)
          right.settings.defaultVerb := (resolveModule_map_canonicalService _ _ _).symm
    _ = resolveModule right.module (left.services.map canonicalService)
          left.settings.defaultVerb := by rw [services, verb]
    _ = resolveModule right.module left.services left.settings.defaultVerb :=
          resolveModule_map_canonicalService _ _ _
    _ = left.resolved := by
          rw [moved]
          rfl

/-- A failure of the units of a module points at the file of the module if it points at one. -/
theorem movedTo_of_unitFiles {module : ModuleDescriptor} {resolved : ResolvedModule}
    {failure : Failure} (failed : unitFiles module resolved = .error failure) :
    failure.movedTo module.sourceFile = failure := by
  have moved := unitFiles_movedTo module module.sourceFile resolved
  rw [ModuleDescriptor.movedTo_self, failed] at moved
  exact (Except.error.inj moved).symm

theorem generateUnits_canonical {left right : UnitsInput} (same : left.same right = true) :
    (generateUnits left).canonical = (generateUnits right).canonical := by
  obtain ⟨moved, file, resolved⟩ := relocated_of_same same
  have units : unitFiles right.module right.resolved =
      (unitFiles left.module left.resolved).mapError (.movedTo right.module.sourceFile) := by
    rw [resolved, ← unitFiles_movedTo, ← moved]
  unfold generateUnits
  rw [units]
  cases outcome : unitFiles left.module left.resolved with
  | ok files => rfl
  | error failure =>
      have diagnostics := Diagnostic.canonical_ofFailure failure file
      rw [movedTo_of_unitFiles outcome] at diagnostics
      simp only [Except.mapError, UnitsOutput.canonical, List.map_cons, List.map_nil, diagnostics]

end Generation

end Wiring
