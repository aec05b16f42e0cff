import Wiring.CommandLine.Arguments
import Wiring.Json.Discovery
import Wiring.Project.Run
import Wiring.Project.Surroundings

/-!
What commands do: they print a report, write diagnostics to the error stream, and end with one if
some diagnostic is an error.
-/

set_option autoImplicit false

namespace Wiring.CommandLine

open Wiring.Plan

structure Report where
  code : Nat
  output : List String
  errors : List String
deriving DecidableEq, Repr

inductive CommandError where
  | usage (error : UsageError)
  | settings (error : SettingsError)
  | failure (failure : Failure)
deriving DecidableEq, Repr

def Report.of (output : List String) (diagnostics : List Diagnostic) : Report :=
  ⟨if hasErrors diagnostics then 1 else 0, output, diagnostics.map Diagnostic.text⟩

/-! ## Module order -/

/-- The module of a path, else the only module of a name. -/
def findModule? (modules : List ModuleDescriptor) (name : String) : Option ModuleDescriptor :=
  match modules.find? fun module => module.id == name with
  | some found => some found
  | none =>
      match modules.filter fun module => module.type.name == name with
      | [only] => some only
      | _ => none

def column (n : Nat) : String :=
  let text := toString n
  String.ofList (List.replicate (3 - text.length) ' ') ++ text

def nodeLine (position : Nat) : Node → String
  | .module found => column position ++ ". " ++ found.id
  | .external id => column position ++ ". " ++ id ++ " (external)"

def nodeLines (position : Nat) : List Node → List String
  | [] => []
  | node :: rest => nodeLine position node :: nodeLines (position + 1) rest

def orderReport (found : Source.Discovery) (name : String) : Except Failure Report :=
  let modules := (consolidate found.modules).modules
  match findModule? modules name with
  | none => .error (.moduleNotFound name)
  | some root =>
      let graph : DependencyGraph := ⟨modules⟩
      .ok (.of (nodeLines 1 (graph.flatten [root.id])) found.diagnostics)

/-! ## Commands -/

def runOn (workspace : Workspace) (settings : Settings) :
    Command → Workspace × Except Failure Report
  | .generate _ out =>
      let (workspace, result) := Project.generate workspace settings out
      (workspace, result.map fun output => .of [] output.diagnostics)
  | .graph module _ =>
      let (workspace, result) := Project.discover workspace settings false
      (workspace, result.bind fun found => orderReport found module)
  | .inspect _ =>
      let (workspace, result) := Project.discover workspace settings false
      (workspace, result.map fun found => .of [found.toJson.pretty 0] found.diagnostics)

def Command.project : Command → String
  | .generate project _ => project
  | .graph _ project => project
  | .inspect project => project

def run (surroundings : Surroundings) (arguments : List String) :
    Workspace × Except CommandError (Invocation × Report) :=
  let workspace := surroundings.workspace
  match parse arguments with
  | .error error => (workspace, .error (.usage error))
  | .ok invocation =>
      match surroundings.settings invocation.command.project with
      | .error error => (workspace, .error (.settings error))
      | .ok settings =>
          let (workspace, result) := runOn workspace settings invocation.command
          match result with
          | .ok report => (workspace, .ok (invocation, report))
          | .error failure => (workspace, .error (.failure failure))

end Wiring.CommandLine
