import Wiring.Generation.Units
import Wiring.Proofs.Outcome

/-!
# Failures point at the declaration

Whatever goes wrong with the units of a module, the failure points at the file and the line of its
declaration.
-/

set_option autoImplicit false

namespace Wiring.Generated

open Wiring.Container
open Wiring.Grammar
open Wiring.Plan

/-! ## Steps -/

/-- Whether a step over the texts of a module fails at most with a failure at its declaration. -/
def Blames {α : Type} (module : ModuleDescriptor) (outcome : Except Failure α) : Prop :=
  ∀ failure, outcome = .error failure →
    ∃ message, failure = .malformed module.sourceFile module.line message

section Steps

variable {α β : Type} {module : ModuleDescriptor}

theorem blames_ok (value : α) : Blames module (.ok value) := by
  intro failure failed
  cases failed

theorem Blames.bind {first : Except Failure α} {next : α → Except Failure β}
    (firstBlames : Blames module first) (nextBlames : ∀ value, Blames module (next value)) :
    Blames module (first >>= next) := by
  cases first with
  | error failure =>
      intro later failed
      cases failed
      exact firstBlames failure rfl
  | ok value => exact nextBlames value

theorem Blames.map {outcome : Except Failure α} (blames : Blames module outcome)
    (result : α → β) : Blames module (outcome.map result) := by
  cases outcome with
  | error failure =>
      intro later failed
      cases failed
      exact blames failure rfl
  | ok value => exact blames_ok (result value)

theorem Blames.mapM {step : α → Except Failure β} (blames : ∀ value, Blames module (step value))
    (values : List α) : Blames module (values.mapM step) := by
  induction values with
  | nil => exact blames_ok []
  | cons value values ih =>
      rw [List.mapM_cons]
      exact (blames value).bind fun _ => ih.bind fun _ => blames_ok _

end Steps

section Module

variable (module : ModuleDescriptor)

theorem part_blames (what : String) (form : Nested → Reader SyntaxTree) (text : String) :
    Blames module (part module what form text) := by
  unfold part
  cases parseText form text with
  | ok tree => exact blames_ok tree
  | error error =>
      intro failure failed
      cases failed
      exact ⟨_, rfl⟩

theorem typedName_blames (parameter : Parameter) : Blames module (typedName module parameter) :=
  (part_blames module _ _ _).bind fun _ => (part_blames module _ _ _).bind fun _ => blames_ok _

/-! ## Facades -/

theorem markerOf_blames (type : SyntaxTree) : Blames module (markerOf module type) :=
  (part_blames module _ _ _).bind fun _ =>
    (Blames.mapM (typedName_blames module) _).bind fun _ =>
      (Blames.mapM (typedName_blames module) _).bind fun _ => blames_ok _

theorem extensionOf_blames (type : SyntaxTree) (method : String) :
    Blames module (extensionOf module type method) :=
  (part_blames module _ _ _).bind fun _ => (part_blames module _ _ _).bind fun _ =>
    (Blames.mapM (typedName_blames module) _).bind fun _ => blames_ok _

theorem constructionOf_blames (reference : ModuleReference) :
    Blames module (constructionOf module reference) := by
  refine (part_blames module _ _ _).bind fun _ => ?_
  refine (Blames.mapM (part_blames module _ _) _).bind fun _ => ?_
  refine (Blames.mapM (fun property => ?_) _).bind fun _ => blames_ok _
  exact (part_blames module _ _ _).bind fun _ => (part_blames module _ _ _).bind fun _ =>
    blames_ok _

theorem declaredName_blames : Blames module (declaredName module) := by
  unfold declaredName
  split
  · exact (part_blames module _ _ _).map some
  · exact blames_ok none

theorem markerIfAsked_blames (type : SyntaxTree) : Blames module (markerIfAsked module type) := by
  unfold markerIfAsked
  split
  · exact (markerOf_blames module type).map some
  · exact blames_ok none

theorem extensionIfAsked_blames (type : SyntaxTree) :
    Blames module (extensionIfAsked module type) := by
  unfold extensionIfAsked
  cases module.useMethod with
  | none => exact blames_ok none
  | some method => exact (extensionOf_blames module type method).map some

theorem facadeOf_blames (hasRegistrations : Bool) :
    Blames module (facadeOf module hasRegistrations) := by
  refine (part_blames module _ _ _).bind fun type => ?_
  refine (declaredName_blames module).bind fun _ => ?_
  refine (Blames.mapM (constructionOf_blames module) _).bind fun _ => ?_
  refine (Blames.mapM (fun extra => part_blames module _ _ _) _).bind fun _ => ?_
  refine (markerIfAsked_blames module type).bind fun _ => ?_
  exact (extensionIfAsked_blames module type).bind fun _ => blames_ok _

/-! ## Registrations -/

section Registrations

variable (owner : SyntaxTree) (resolved : ResolvedModule)

theorem callableOf_blames (name : String) :
    Blames module (callableOf module owner resolved name) := by
  unfold callableOf
  split
  · exact (part_blames module _ _ _).map _
  · exact (part_blames module _ _ _).map _

theorem implementationCode_blames (implementation : Implementation) :
    Blames module (implementationCode module owner resolved implementation) := by
  cases implementation with
  | type key => exact blames_ok _
  | forward service => exact blames_ok _
  | factory name => exact (callableOf_blames module owner resolved name).map _

theorem operationCode_blames (operation : Operation) :
    Blames module (operationCode module owner resolved operation) :=
  ((implementationCode_blames module owner resolved _).map _).map _

end Registrations

theorem argumentCode_blames (source : ParameterSource) :
    Blames module (argumentCode module source) := by
  cases source with
  | container => exact blames_ok _
  | shared type service => exact (part_blames module _ _ _).map _
  | cloned type service => exact (part_blames module _ _ _).map _

theorem glueOf_blames (factory : FactoryMethod) : Blames module (glueOf module factory) :=
  (part_blames module _ _ _).bind fun _ => (part_blames module _ _ _).bind fun _ =>
    (Blames.mapM (fun parameter : FactoryParameter => argumentCode_blames module parameter.source)
      _).bind fun _ => blames_ok _

theorem registrationsUnitOf_blames (resolved : ResolvedModule) (operations : List Operation) :
    Blames module (registrationsUnitOf module resolved operations) :=
  (part_blames module _ _ _).bind fun owner =>
    (Blames.mapM (operationCode_blames module owner resolved) _).bind fun _ =>
      (Blames.mapM (glueOf_blames module) _).bind fun _ => blames_ok _

/-- The units of a module fail at most with a failure at its declaration. -/
theorem unitFiles_blames (resolved : ResolvedModule) :
    Blames module (Generation.unitFiles module resolved) := by
  refine ((facadeOf_blames module _).map _).bind fun facade => ?_
  split
  · exact blames_ok _
  · exact ((registrationsUnitOf_blames module resolved _).map _).bind fun _ => blames_ok _

end Module

end Wiring.Generated
