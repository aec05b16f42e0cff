import Wiring.Files.Path

/-!
One text for all spellings of a path.
-/

set_option autoImplicit false

namespace Wiring.Files

def ofComponents : List String → String
  | "/" :: rest => "/" ++ "/".intercalate rest
  | parts => "/".intercalate parts

def canonical (path : String) : String :=
  ofComponents (components path)

end Wiring.Files
