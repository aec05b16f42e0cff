import Wiring.CommandLine.Execution

/-!
What is shown where a command does not get to its report.
-/

set_option autoImplicit false

namespace Wiring.CommandLine

def usageText : String :=
  "\n".intercalate [
    "Usage: wiregen [--verbose] <COMMAND>",
    "",
    "Commands:",
    "  generate [--project DIR] [--out DIR]  write the units of a project",
    "  graph MODULE [--project DIR]          show the order in which modules are applied",
    "  inspect [--project DIR]               show what a project declares as JSON"]

def versionText : String :=
  "wiregen 0.1.0"

def UsageError.message : UsageError → String
  | .unknownArgument => "error: there is no such argument"
  | .unknownCommand => "error: there is no such command"
  | .lackingValue => "error: an option lacks its value"
  | .repeatedOption => "error: an option is given twice"
  | .needlessValue => "error: a switch is given a value"
  | .lackingArgument => "error: an argument is missing"
  | .lackingCommand => "error: a command is missing"
  | .help => usageText
  | .version => versionText
  | .nothingGiven => usageText

/-- The code that the program ends with. Help and version are no failures when they are asked
for. -/
def UsageError.code : UsageError → Nat
  | .help => 0
  | .version => 0
  | _ => 2

def CommandError.message : CommandError → String
  | .usage error => error.message
  | .settings error => "Error: " ++ error.message
  | .failure reason => "Error: " ++ reason.message

def CommandError.code : CommandError → Nat
  | .usage error => error.code
  | _ => 1

end Wiring.CommandLine
