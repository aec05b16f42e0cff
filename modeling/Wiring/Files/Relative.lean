import Wiring.Files.Canonical

/-!
Paths as seen from a directory.
-/

set_option autoImplicit false

namespace Wiring.Files

/-- The components of a path after those that it shares with a base, behind two dots for each
component of the base that it does not share. -/
def relativeParts : List String → List String → List String
  | base :: bases, part :: parts =>
      if base == part then relativeParts bases parts
      else List.replicate (bases.length + 1) ".." ++ part :: parts
  | bases, parts => List.replicate bases.length ".." ++ parts

/-- An absolute path as it is seen from an absolute base, unless that takes as many components. -/
def seenFrom (base path : String) : String :=
  let parts := relativeParts (components base) (components path)
  if parts.length < (components path).length then ofComponents parts else path

end Wiring.Files
