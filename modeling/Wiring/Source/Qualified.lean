import Wiring.Grammar.Parse
import Wiring.Grammar.Text
import Wiring.Source.Scope

/-!
Qualified types, which read the same from any module: every path that names a type or a
trait is replaced by what it stands for.
-/

set_option autoImplicit false

namespace Wiring.Source

open Wiring.Grammar
open Wiring.Text

/-- A path written from the root. Paths from outside and those of the type itself stay, and the
arguments of the last segment are kept. -/
def qualifyPath (spaces : List String) (scope : Scope) (path : SyntaxTree) : SyntaxTree :=
  let names := path.pathNames
  let resolved := resolvePath spaces scope names
  if path.isAbsolutePath || names.head? == some "Self" || resolved == joinSegments names then path
  else
    match parseText pathForm resolved with
    | .error _ => path
    | .ok found =>
        let last := path.segments.getLast?
        found.withLastArguments ((last.map fun segment => segment.children.drop 1).getD [])

mutual

def qualifyType (spaces : List String) (scope : Scope) : SyntaxTree → SyntaxTree
  | .node .pathType parts =>
      match qualifyTypes spaces scope parts with
      | [path] => .node .pathType [qualifyPath spaces scope path]
      | parts => .node .pathType parts
  | .node .traitBound parts =>
      .node .traitBound ((qualifyTypes spaces scope parts).map fun part =>
        if part.hasKind .path then qualifyPath spaces scope part else part)
  | .node kind parts => .node kind (qualifyTypes spaces scope parts)
  | .group delimiter body openLine closeLine =>
      .group delimiter (qualifyTypes spaces scope body) openLine closeLine
  | tree => tree

def qualifyTypes (spaces : List String) (scope : Scope) : List SyntaxTree → List SyntaxTree
  | [] => []
  | tree :: rest => qualifyType spaces scope tree :: qualifyTypes spaces scope rest

end

def typeText (spaces : List String) (scope : Scope) (type : SyntaxTree) : String :=
  (qualifyType spaces scope type).text

end Wiring.Source
