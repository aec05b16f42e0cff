import Wiring.Failure

/-!
Messages that point at declarations in the sources.
-/

set_option autoImplicit false

namespace Wiring

inductive Severity where
  | warning
  | error
deriving DecidableEq, Repr

def Severity.text : Severity → String
  | .warning => "warning"
  | .error => "error"

/-- A message about a declaration. Line zero stands for the whole file. -/
structure Diagnostic where
  severity : Severity
  path : String
  line : Nat
  message : String
deriving DecidableEq, Repr

namespace Diagnostic

/-- The diagnostic of a failure that came up for a file. A malformed declaration and a file that
does not parse carry their own path. -/
def ofFailure (path : String) : Failure → Diagnostic
  | .malformed path line message => ⟨.error, path, line, message⟩
  | .parse path message => ⟨.error, path, 0, message⟩
  | failure => ⟨.error, path, failure.line?.getD 0, failure.message⟩

def isError (diagnostic : Diagnostic) : Bool :=
  diagnostic.severity == .error

def text (diagnostic : Diagnostic) : String :=
  let place :=
    if 0 < diagnostic.line then diagnostic.path ++ ":" ++ toString diagnostic.line
    else diagnostic.path
  diagnostic.severity.text ++ ": " ++ place ++ ": " ++ diagnostic.message

end Diagnostic

def hasErrors (diagnostics : List Diagnostic) : Bool :=
  diagnostics.any Diagnostic.isError

end Wiring
