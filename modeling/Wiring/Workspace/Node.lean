/-!
Directory trees: what stands at a location, and how one location is changed. A location is the list
of names on the way down from the top.
-/

set_option autoImplicit false

namespace Wiring.Workspace

inductive Node where
  | file (contents : ByteArray)
  | directory (entries : List (String × Node))

abbrev Location := List String

def child? (name : String) (entries : List (String × Node)) : Option Node :=
  (entries.find? fun entry => entry.1 == name).map (·.2)

/-- Gives a name a node, in its place if the name has one already. -/
def putEntry (name : String) (node : Node) : List (String × Node) → List (String × Node)
  | [] => [(name, node)]
  | (other, old) :: rest =>
      if other == name then (name, node) :: rest else (other, old) :: putEntry name node rest

namespace Node

def isDirectory : Node → Bool
  | .directory _ => true
  | .file _ => false

def entries : Node → List (String × Node)
  | .directory entries => entries
  | .file _ => []

def get? : Node → Location → Option Node
  | node, [] => some node
  | .directory entries, name :: rest => (child? name entries).bind fun child => child.get? rest
  | .file _, _ :: _ => none

/-- The tree with a node at a location. All of the way down but the last name has to be there
already. -/
def put (node : Node) : Node → Location → Node
  | _, [] => node
  | .directory entries, name :: rest =>
      match child? name entries with
      | some child => .directory (putEntry name (node.put child rest) entries)
      | none => if rest.isEmpty then .directory (putEntry name node entries) else .directory entries
  | .file contents, _ :: _ => .file contents

/-- The tree without what stands at a location. The top stays. -/
def remove : Node → Location → Node
  | node, [] => node
  | .directory entries, [name] => .directory (entries.filter fun entry => entry.1 != name)
  | .directory entries, name :: rest =>
      match child? name entries with
      | some child => .directory (putEntry name (child.remove rest) entries)
      | none => .directory entries
  | .file contents, _ :: _ => .file contents

mutual

/-- The paths of all nodes below a node; those of directories end with a separator. -/
def paths (lead : String) : Node → List String
  | .file _ => []
  | .directory entries => entryPaths lead entries

def entryPaths (lead : String) : List (String × Node) → List String
  | [] => []
  | (name, node) :: rest =>
      let path := if node.isDirectory then lead ++ name ++ "/" else lead ++ name
      path :: (paths path node ++ entryPaths lead rest)

end

mutual

def files (path : String) : Node → List (String × ByteArray)
  | .file contents => [(path, contents)]
  | .directory entries => entryFiles path entries

def entryFiles (path : String) : List (String × Node) → List (String × ByteArray)
  | [] => []
  | (name, node) :: rest => files (path ++ "/" ++ name) node ++ entryFiles path rest

end

end Node

end Wiring.Workspace
