import Wiring.Files.Path

/-!
The namespace that a source file makes up.
-/

set_option autoImplicit false

namespace Wiring.Files

open Wiring.Text

def directoryFiles : List String :=
  ["lib", "main", "mod"]

/-- The namespace of a file, from its components below the source directory. -/
def namespaceOf (root : String) (relative : List String) : String :=
  let parts := dropExtension relative
  let parts :=
    match parts.getLast? with
    | some last => if directoryFiles.contains last then parts.dropLast else parts
    | none => parts
  joinSegments (root :: parts)

/-- The components of a source file below the source directory: below the directory as it is
found, else below the one that the settings name, else those of the file name alone. -/
def relativeTo (path root sourceDir : String) : List String :=
  match (below? root path).or (below? sourceDir path) with
  | some parts => parts
  | none =>
      match fileName? path with
      | some name => [name]
      | none => components path

end Wiring.Files
