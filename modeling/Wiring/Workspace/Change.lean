import Wiring.Workspace.Basic

/-!
Changes of a workspace: directories are made, files are written, and either is removed.
-/

set_option autoImplicit false

namespace Wiring.Workspace

open Wiring.Files

inductive Target where
  | directory
  | entry (place : Location) (found : Option Node)

/-- Where a path asks for something to be made: the directory before its last name has to be
there. -/
def target (workspace : Workspace) (path : String) : Except FileFault Target := do
  let names := ((pathNames path).reverse.dropWhile (· == "")).reverse
  match names.getLast? with
  | none => if path.isEmpty then throw .notFound else return .directory
  | some last =>
      let parent ← workspace.follow (workspace.start path) names.dropLast
      if last == "." || last == ".." then do
        let _ ← workspace.descend parent last
        return .directory
      else
        match workspace.root.get? parent with
        | some (.directory entries) => return .entry (parent ++ [last]) (child? last entries)
        | some (.file _) => throw .notDirectory
        | none => throw .notFound

def putAt (workspace : Workspace) (place : Location) (node : Node) : Workspace :=
  { workspace with root := node.put workspace.root place }

def makeDirectory (workspace : Workspace) (path : String) : Except FileFault Workspace := do
  match ← workspace.target path with
  | .entry place none => return workspace.putAt place (.directory [])
  | .entry _ (some _) => throw .exists
  | .directory => throw .exists

/-- Makes the first of some directories, and the others if they are what it lacks. Each one lies
in the next one. What was made stays when a later step fails. -/
def makeChain (workspace : Workspace) : List String → Workspace × Option FileFault
  | [] => (workspace, none)
  | path :: outer =>
      if path.isEmpty then (workspace, none)
      else
        match workspace.makeDirectory path with
        | .ok made => (made, none)
        | .error .notFound =>
            match workspace.makeChain outer with
            | (made, some fault) => (made, some fault)
            | (made, none) =>
                match made.makeDirectory path with
                | .ok made => (made, none)
                | .error fault =>
                    (made, if made.isDirectory path then none else some fault)
        | .error fault => (workspace, if workspace.isDirectory path then none else some fault)

def outerPaths (path : String) : List String :=
  go (components path).reverse
where
  go : List String → List String
    | [] => []
    | _ :: front => ofComponents front.reverse :: go front

def makeDirectories (workspace : Workspace) (path : String) : Workspace × Option FileFault :=
  workspace.makeChain (path :: outerPaths path)

def update (workspace : Workspace) (path : String) (change : ByteArray → ByteArray) :
    Except FileFault Workspace := do
  match ← workspace.target path with
  | .entry place none => return workspace.putAt place (.file (change .empty))
  | .entry place (some (.file bytes)) => return workspace.putAt place (.file (change bytes))
  | .entry _ (some (.directory _)) => throw .isDirectory
  | .directory => throw .isDirectory

def write (workspace : Workspace) (path text : String) : Except FileFault Workspace :=
  workspace.update path fun _ => text.toUTF8

def append (workspace : Workspace) (path text : String) : Except FileFault Workspace :=
  workspace.update path fun bytes => bytes ++ text.toUTF8

def install (workspace : Workspace) (path : String) (contents : ByteArray) : Workspace :=
  let made := (workspace.makeChain (outerPaths path)).1
  match made.update path fun _ => contents with
  | .ok written => written
  | .error _ => made

def removeAll (workspace : Workspace) (path : String) : Except FileFault Workspace := do
  let place ← workspace.locate path
  return { workspace with root := workspace.root.remove place }

/-- The files that another workspace does not have or has with other contents. -/
def changedFrom (workspace before : Workspace) : List (String × ByteArray) :=
  (workspace.root.files "").filter fun (path, contents) =>
    match before.contents path with
    | .ok old => old != contents
    | .error _ => true

end Wiring.Workspace
