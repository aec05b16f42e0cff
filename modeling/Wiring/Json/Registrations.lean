import Wiring.Container.Collection
import Wiring.Json.Descriptors
import Wiring.Plan.Resolution

/-!
Registrations and operations on them as JSON.
-/

set_option autoImplicit false

namespace Wiring

open Json

namespace Container

def Implementation.toJson : Implementation → Json
  | .type key => .object [("type", .string key)]
  | .factory name => .object [("factory", .string name)]
  | .forward service => .object [("forward", .string service)]

def Registration.toJson (registration : Registration) : Json :=
  .object [("service", .string registration.service),
    ("key", ofOption .string registration.key),
    ("implementation", registration.implementation.toJson),
    ("lifetime", registration.lifetime.toJson)]

def Operation.toJson : Operation → Json
  | .addStandard r => .object [("op", .string "add_standard"), ("r", r.toJson)]
  | .addKeyed r => .object [("op", .string "add_keyed"), ("r", r.toJson)]
  | .tryAdd r => .object [("op", .string "try_add"), ("r", r.toJson)]
  | .tryAddEnumerable r => .object [("op", .string "try_add_enumerable"), ("r", r.toJson)]
  | .replace r => .object [("op", .string "replace"), ("r", r.toJson)]
  | .crossWire r interfaces verb =>
      .object [("op", .string "cross_wire"), ("r", r.toJson), ("interfaces", strings interfaces),
        ("verb", verb.toJson)]

end Container

namespace Plan

def ResolvedImplementation.toJson : ResolvedImplementation → Json
  | .type target => .object [("type", .string target.key)]
  | .factory path => .object [("factory", .string path)]
  | .glue name => .object [("glue", .string name)]

def ResolvedRegistration.toJson (resolved : ResolvedRegistration) : Json :=
  .object [("implementation_type", .string resolved.implementationType.key),
    ("service", .string resolved.service.key), ("lifetime", resolved.lifetime.toJson),
    ("verb", resolved.verb.toJson), ("key", ofOption .string resolved.key),
    ("implementation", resolved.implementation.toJson),
    ("cross_wire", ofOption (fun types => strings (types.map TypeName.key)) resolved.crossWire)]

end Plan

end Wiring
