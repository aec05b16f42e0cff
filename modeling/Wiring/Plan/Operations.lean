import Wiring.Container.Collection
import Wiring.Plan.Resolution

/-!
The container operations of resolved registrations.
-/

set_option autoImplicit false

namespace Wiring.Plan

open Wiring.Container

def ResolvedImplementation.toImplementation : ResolvedImplementation → Implementation
  | .type target => .type target.key
  | .factory path => .factory path
  | .glue name => .factory name

def ResolvedRegistration.toRegistration (resolved : ResolvedRegistration) : Registration :=
  ⟨resolved.service.key, resolved.key, resolved.implementation.toImplementation,
    resolved.lifetime⟩

def ResolvedRegistration.toOperation (resolved : ResolvedRegistration) : Operation :=
  match resolved.crossWire with
  | some contracts =>
      .crossWire resolved.toRegistration (contracts.map TypeName.key) resolved.verb
  | none => .ofVerb resolved.verb resolved.toRegistration

def ResolvedModule.operations (resolved : ResolvedModule) : List Operation :=
  resolved.registrations.map ResolvedRegistration.toOperation

end Wiring.Plan
