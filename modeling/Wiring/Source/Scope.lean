import Wiring.Declaration.TypeName
import Wiring.Grammar.View

/-!
Scopes: a namespace and the names that its use items bring in, and what a path written there
stands for.
-/

set_option autoImplicit false

namespace Wiring.Source

open Wiring.Grammar
open Wiring.Text

/-! ## Imports -/

inductive UseTree where
  | path (name : String) (tree : UseTree)
  /-- One name; `self` is the path up to here. -/
  | name (name : String)
  | rename (name binding : String)
  | group (trees : List UseTree)
  | glob

mutual

def UseTree.ofTree : SyntaxTree → UseTree
  | .node .usePath [.token _ ident _ _, _, inner] => .path ident (UseTree.ofTree inner)
  | .node .useName [.token _ ident _ _] => .name ident
  | .node .useRename [.token _ ident _ _, _, .token _ binding _ _] => .rename ident binding
  | .node .useGroup [.group _ entries _ _] => .group (UseTree.ofTrees entries)
  | _ => .glob

def UseTree.ofTrees : List SyntaxTree → List UseTree
  | [] => []
  | tree :: rest =>
      if tree.isPunct "," then UseTree.ofTrees rest
      else UseTree.ofTree tree :: UseTree.ofTrees rest

end

def UseTree.ofItem? (item : SyntaxTree) : Option UseTree :=
  (item.children.find? fun part =>
    part.hasKind .usePath || part.hasKind .useName || part.hasKind .useRename ||
      part.hasKind .useGroup || part.hasKind .useGlob).map UseTree.ofTree

structure Scope where
  space : String
  imports : List (String × String)
deriving DecidableEq, Repr

namespace Scope

def of (space : String) : Scope :=
  ⟨space, []⟩

def import? (scope : Scope) (name : String) : Option String :=
  (scope.imports.find? fun entry => entry.1 == name).map (·.2)

/-- Binds a name to a path; a later binding replaces an earlier one. -/
def bindName (scope : Scope) (name path : String) : Scope :=
  { scope with imports := scope.imports.filter (·.1 != name) ++ [(name, path)] }

/-- Goes from a namespace along leading `self` and `super` segments. The root has no parent. -/
def ascend : List String → List String → List String
  | base, [] => base
  | base, name :: rest =>
      if name == "self" then ascend base rest
      else if name == "super" then
        ascend (if 1 < base.length then base.dropLast else base) rest
      else base ++ name :: rest

/-- A path whose leading `self` and `super` segments are replaced by what they stand for. -/
def absolute (scope : Scope) (path : List String) : String :=
  match path.head? with
  | some first =>
      if first == "self" || first == "super" then
        joinSegments (ascend (segments scope.space) path)
      else joinSegments path
  | none => joinSegments path

mutual

def collect (path : List String) : UseTree → Scope → Scope
  | .path name tree, scope => collect (path ++ [name]) tree scope
  | .name name, scope =>
      if name == "self" then
        match path.getLast? with
        | some last => scope.bindName last (scope.absolute path)
        | none => scope
      else scope.bindName name (scope.absolute (path ++ [name]))
  | .rename name binding, scope => scope.bindName binding (scope.absolute (path ++ [name]))
  | .group trees, scope => collectAll path trees scope
  | .glob, scope => scope

def collectAll (path : List String) : List UseTree → Scope → Scope
  | [], scope => scope
  | tree :: rest, scope => collectAll path rest (collect path tree scope)

end

def addUse (scope : Scope) (tree : UseTree) : Scope :=
  collect [] tree scope

end Scope

/-! ## Paths -/

/-- Names that stand for themselves when they are written alone. -/
def preludeNames : List String := [
  "bool", "char", "str", "u8", "u16", "u32", "u64", "u128", "usize", "i8", "i16", "i32", "i64",
  "i128", "isize", "f32", "f64", "String", "Vec", "Box", "Option", "Result", "Clone", "Copy",
  "Default", "Drop", "Eq", "PartialEq", "Ord", "PartialOrd", "Send", "Sync", "Sized", "From",
  "Into", "TryFrom", "TryInto", "AsRef", "AsMut", "Iterator", "ToString", "ToOwned", "Fn",
  "FnMut", "FnOnce"]

def isTypeLike (name : String) : Bool :=
  name.toList.head?.any fun c => 'A' ≤ c && c ≤ 'Z'

/-- A path below the scope if its first segment is a namespace there, else the path itself. -/
def belowScope (spaces : List String) (scope : Scope) (path : List String) : String :=
  let first := path.headD ""
  let whole := joinSegments path
  if first != "crate" && spaces.contains (scope.space ++ "::" ++ first) then
    scope.space ++ "::" ++ whole
  else whole

/-- What a path written in a scope stands for, given the known namespaces. Paths from the crate
stay; `self` and `super` are seen from the scope; the prelude stays; an imported first segment
is what it is imported as; a lone name, a type or a known child belongs to the scope; all else
is a path of another crate. -/
def resolvePath (spaces : List String) (scope : Scope) (path : List String) : String :=
  match path with
  | [] => ""
  | first :: rest =>
      if first == "crate" then joinSegments path
      else if first == "self" || first == "super" then scope.absolute path
      else if rest.isEmpty && preludeNames.contains first then first
      else
        match scope.import? first with
        | some found => belowScope spaces scope (segments found ++ rest)
        | none =>
            if rest.isEmpty || isTypeLike first then
              scope.space ++ "::" ++ joinSegments path
            else belowScope spaces scope path

/-- The type that a path of the grammar stands for; generic arguments do not count. -/
def resolveType (spaces : List String) (scope : Scope) (path : SyntaxTree) : TypeName :=
  .ofPath (resolvePath spaces scope path.pathNames)

end Wiring.Source
