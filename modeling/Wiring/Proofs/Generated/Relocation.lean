import Wiring.Generation.Units
import Wiring.Proofs.Outcome

/-!
# Units of a module at another file

Where a module is declared shows in its failures only: its units, and the kind, the line and the
wording of what goes wrong, are those of the module at any other file.
-/

set_option autoImplicit false

namespace Wiring

def ModuleDescriptor.movedTo (module : ModuleDescriptor) (path : String) : ModuleDescriptor :=
  { module with sourceFile := path }

def Failure.movedTo (path : String) : Failure → Failure
  | .malformed _ line message => .malformed path line message
  | failure => failure

theorem ModuleDescriptor.movedTo_self (module : ModuleDescriptor) :
    module.movedTo module.sourceFile = module :=
  rfl

namespace Generated

open Wiring.Grammar
open Wiring.Outcome
open Wiring.Plan
open Wiring.Container

variable (module : ModuleDescriptor) (path : String)

/-! ## Texts -/

theorem part_movedTo (what : String) (form : Nested → Reader SyntaxTree) (text : String) :
    part (module.movedTo path) what form text =
      (part module what form text).mapError (.movedTo path) := by
  unfold part
  cases parseText form text <;> rfl

theorem pathPart_movedTo (text : String) :
    pathPart (module.movedTo path) text = (pathPart module text).mapError (.movedTo path) :=
  part_movedTo module path "path" pathForm text

theorem typePart_movedTo (text : String) :
    typePart (module.movedTo path) text = (typePart module text).mapError (.movedTo path) :=
  part_movedTo module path "type" typeForm text

theorem exprPart_movedTo :
    exprPart (module.movedTo path) = fun text =>
      (exprPart module text).mapError (.movedTo path) := by
  funext text
  exact part_movedTo module path "expression" exprForm text

theorem namePart_movedTo (text : String) :
    namePart (module.movedTo path) text = (namePart module text).mapError (.movedTo path) :=
  part_movedTo module path "name" nameForm text

theorem typedName_movedTo :
    typedName (module.movedTo path) = fun parameter =>
      (typedName module parameter).mapError (.movedTo path) := by
  funext parameter
  simp only [typedName, namePart_movedTo, typePart_movedTo, mapError_bind, mapError_pure]

/-! ## Companions -/

theorem markerOf_movedTo (type : SyntaxTree) :
    markerOf (module.movedTo path) type = (markerOf module type).mapError (.movedTo path) := by
  simp only [markerOf, namePart_movedTo, typedName_movedTo, mapError_bind, mapError_mapM,
    mapError_pure]
  rfl

theorem extensionOf_movedTo (type : SyntaxTree) (method : String) :
    extensionOf (module.movedTo path) type method =
      (extensionOf module type method).mapError (.movedTo path) := by
  simp only [extensionOf, namePart_movedTo, typedName_movedTo, mapError_bind, mapError_mapM,
    mapError_pure]
  rfl

/-! ## Facades -/

theorem constructionOf_movedTo :
    constructionOf (module.movedTo path) = fun reference =>
      (constructionOf module reference).mapError (.movedTo path) := by
  funext reference
  simp only [constructionOf, pathPart_movedTo, exprPart_movedTo, namePart_movedTo, mapError_bind,
    mapError_mapM, mapError_pure]

theorem declaredName_movedTo :
    declaredName (module.movedTo path) = (declaredName module).mapError (.movedTo path) := by
  unfold declaredName
  rw [apply_ite (Except.mapError (Failure.movedTo path)), mapError_map, ← namePart_movedTo]
  rfl

theorem markerIfAsked_movedTo (type : SyntaxTree) :
    markerIfAsked (module.movedTo path) type =
      (markerIfAsked module type).mapError (.movedTo path) := by
  unfold markerIfAsked
  rw [apply_ite (Except.mapError (Failure.movedTo path)), mapError_map, ← markerOf_movedTo]
  rfl

theorem extensionIfAsked_movedTo (type : SyntaxTree) :
    extensionIfAsked (module.movedTo path) type =
      (extensionIfAsked module type).mapError (.movedTo path) := by
  unfold extensionIfAsked
  have same : (module.movedTo path).useMethod = module.useMethod := rfl
  rw [same]
  cases module.useMethod with
  | none => rfl
  | some method => simp only [mapError_map, extensionOf_movedTo]

theorem facadeOf_movedTo (hasRegistrations : Bool) :
    facadeOf (module.movedTo path) hasRegistrations =
      (facadeOf module hasRegistrations).mapError (.movedTo path) := by
  simp only [facadeOf, pathPart_movedTo, declaredName_movedTo, constructionOf_movedTo,
    markerIfAsked_movedTo, extensionIfAsked_movedTo, mapError_bind, mapError_mapM, mapError_pure]
  rfl

/-! ## Registrations -/

theorem callableOf_movedTo (owner : SyntaxTree) (resolved : ResolvedModule) (name : String) :
    callableOf (module.movedTo path) owner resolved name =
      (callableOf module owner resolved name).mapError (.movedTo path) := by
  simp only [callableOf, namePart_movedTo, pathPart_movedTo, apply_ite (Except.mapError _),
    mapError_map]

theorem implementationCode_movedTo (owner : SyntaxTree) (resolved : ResolvedModule)
    (implementation : Implementation) :
    implementationCode (module.movedTo path) owner resolved implementation =
      (implementationCode module owner resolved implementation).mapError (.movedTo path) := by
  cases implementation with
  | type key => rfl
  | forward service => rfl
  | factory name => simp only [implementationCode, callableOf_movedTo, mapError_map]

theorem registrationCode_movedTo (owner : SyntaxTree) (resolved : ResolvedModule)
    (registration : Registration) :
    registrationCode (module.movedTo path) owner resolved registration =
      (registrationCode module owner resolved registration).mapError (.movedTo path) := by
  simp only [registrationCode, implementationCode_movedTo, mapError_map]

theorem operationCode_movedTo (owner : SyntaxTree) (resolved : ResolvedModule) :
    operationCode (module.movedTo path) owner resolved = fun operation =>
      (operationCode module owner resolved operation).mapError (.movedTo path) := by
  funext operation
  simp only [operationCode, registrationCode_movedTo, mapError_map]

theorem argumentCode_movedTo (source : ParameterSource) :
    argumentCode (module.movedTo path) source =
      (argumentCode module source).mapError (.movedTo path) := by
  cases source with
  | container => rfl
  | shared type service => simp only [argumentCode, typePart_movedTo, mapError_map]
  | cloned type service => simp only [argumentCode, typePart_movedTo, mapError_map]

theorem glueOf_movedTo :
    glueOf (module.movedTo path) = fun factory =>
      (glueOf module factory).mapError (.movedTo path) := by
  funext factory
  simp only [glueOf, namePart_movedTo, pathPart_movedTo, argumentCode_movedTo, mapError_bind,
    mapError_mapM, mapError_pure]

theorem registrationsUnitOf_movedTo (resolved : ResolvedModule) (operations : List Operation) :
    registrationsUnitOf (module.movedTo path) resolved operations =
      (registrationsUnitOf module resolved operations).mapError (.movedTo path) := by
  simp only [registrationsUnitOf, pathPart_movedTo, operationCode_movedTo, glueOf_movedTo,
    mapError_bind, mapError_mapM, mapError_pure]
  rfl

end Generated

/-! ## Units -/

namespace Generation

open Wiring.Generated
open Wiring.Outcome
open Wiring.Plan

theorem unitFiles_movedTo (module : ModuleDescriptor) (path : String) (resolved : ResolvedModule) :
    unitFiles (module.movedTo path) resolved =
      (unitFiles module resolved).mapError (.movedTo path) := by
  simp only [unitFiles, facadeFile, registrationsFile, facadeOf_movedTo,
    registrationsUnitOf_movedTo, mapError_bind, mapError_map, mapError_pure,
    apply_ite (Except.mapError _)]
  rfl

end Generation

end Wiring
