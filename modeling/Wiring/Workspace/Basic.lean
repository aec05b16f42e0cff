import Wiring.Failure
import Wiring.Files.Canonical
import Wiring.Workspace.Node

/-!
A workspace: a directory tree with a directory that relative paths start from. Paths are followed
name by name, and each name but the last has to be that of a directory.
-/

set_option autoImplicit false

namespace Wiring

open Wiring.Files
open Wiring.Text

structure Workspace where
  root : Workspace.Node
  home : Workspace.Location

namespace Workspace

def pathNames (path : String) : List String :=
  (splitAtChar '/' path.toList).map String.ofList

def start (workspace : Workspace) (path : String) : Location :=
  if isAbsolute path then [] else workspace.home

/-- One name further down. A dot stays, two dots go up, and an empty name only asks for a
directory. -/
def descend (workspace : Workspace) (place : Location) (name : String) :
    Except FileFault Location :=
  match workspace.root.get? place with
  | none => .error .notFound
  | some (.file _) => .error .notDirectory
  | some (.directory entries) =>
      if name == "" || name == "." then .ok place
      else if name == ".." then .ok place.dropLast
      else if (child? name entries).isSome then .ok (place ++ [name])
      else .error .notFound

def follow (workspace : Workspace) : Location → List String → Except FileFault Location
  | place, [] => .ok place
  | place, name :: rest => do workspace.follow (← workspace.descend place name) rest

def locate (workspace : Workspace) (path : String) : Except FileFault Location :=
  if path.isEmpty then .error .notFound
  else workspace.follow (workspace.start path) (pathNames path)

def node (workspace : Workspace) (path : String) : Except FileFault Node := do
  let place ← workspace.locate path
  match workspace.root.get? place with
  | some found => return found
  | none => throw .notFound

def isDirectory (workspace : Workspace) (path : String) : Bool :=
  match workspace.node path with
  | .ok found => found.isDirectory
  | .error _ => false

def isFile (workspace : Workspace) (path : String) : Bool :=
  match workspace.node path with
  | .ok found => !found.isDirectory
  | .error _ => false

def contains (workspace : Workspace) (path : String) : Bool :=
  workspace.isDirectory path || workspace.isFile path

def contents (workspace : Workspace) (path : String) : Except FileFault ByteArray := do
  match ← workspace.node path with
  | .file bytes => return bytes
  | .directory _ => throw .isDirectory

def text (workspace : Workspace) (path : String) : Except FileFault String := do
  match String.fromUTF8? (← workspace.contents path) with
  | some text => return text
  | none => throw .notText

def paths (workspace : Workspace) : List String :=
  match workspace.root.get? workspace.home with
  | some node => (node.paths "").mergeSort fun left right => left ≤ right
  | none => []

end Workspace

end Wiring
