import Wiring.Files.Namespace
import Wiring.Log
import Wiring.Source.Analysis

/-!
Discovery: the declarations in a list of source texts. A text that does not parse gives one
diagnostic and is otherwise passed over.
-/

set_option autoImplicit false

namespace Wiring.Source

open Wiring.Files
open Wiring.Grammar

structure Discovery where
  modules : List (ModuleDescriptor × Settings)
  services : List ServiceDescriptor
  diagnostics : List Diagnostic
  files : Nat
deriving DecidableEq, Repr

structure SourceText where
  path : String
  text : String
deriving DecidableEq, Repr

def factsOf (settings : Settings) (source : SourceText) : Except Diagnostic FileFacts :=
  let space := namespaceOf settings.rootNamespace
    (relativeTo source.path settings.sourcePath settings.sourceDir)
  match parseFile source.text with
  | .ok file => .ok (.collect source.path space file)
  | .error error =>
      .error ⟨.error, source.path, error.line,
        (Failure.parse source.path error.message).message⟩

def parsedFacts (settings : Settings) (sources : List SourceText) : List FileFacts :=
  sources.filterMap fun source => (factsOf settings source).toOption

/-- The diagnostics of the texts that do not parse. -/
def parseProblems (settings : Settings) (sources : List SourceText) : List Diagnostic :=
  sources.filterMap fun source =>
    match factsOf settings source with
    | .error problem => some problem
    | .ok _ => none

def discover (settings : Settings) (sources : List SourceText) : Discovery :=
  let findings := analyze settings (parsedFacts settings sources)
  ⟨findings.modules.map fun module => (module, settings), findings.services,
    parseProblems settings sources ++ findings.diagnostics, sources.length⟩

/-- Discovery under a token that may have been cancelled; it is looked at before each file. -/
def discoverUnless (isCancelled : Bool) (settings : Settings) (sources : List SourceText) :
    Except Failure Discovery :=
  if isCancelled && !sources.isEmpty then .error .cancelled
  else .ok (discover settings sources)

def discoveryLog (settings : Settings) (sources : List SourceText) (found : Discovery) :
    List LogEntry :=
  (parseProblems settings sources).map (fun problem => ⟨.error, problem.message⟩) ++
    found.diagnostics.map (fun diagnostic => ⟨.warn, diagnostic.text⟩) ++
    [⟨.info, "discovered " ++ toString found.modules.length ++ " modules, " ++
      toString found.services.length ++ " services"⟩]

end Wiring.Source
