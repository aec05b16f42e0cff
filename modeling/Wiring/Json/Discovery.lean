import Wiring.Json.Descriptors
import Wiring.Source.Discovery

/-!
Diagnostics and everything that was discovered, as JSON.
-/

set_option autoImplicit false

namespace Wiring

open Json

def Diagnostic.toJson (diagnostic : Diagnostic) : Json :=
  .object [("severity", .string diagnostic.severity.text), ("path", .string diagnostic.path),
    ("line", .int diagnostic.line), ("message", .string diagnostic.message)]

/-- A discovery as an object; each declaration of a module stands with its settings. -/
def Source.Discovery.toJson (found : Source.Discovery) : Json :=
  .object [
    ("modules", .array (found.modules.map fun (module, settings) =>
      .array [module.toJson, settings.toJson])),
    ("services", .array (found.services.map ServiceDescriptor.toJson)),
    ("diagnostics", .array (found.diagnostics.map Diagnostic.toJson)),
    ("files", .int found.files)]

end Wiring
