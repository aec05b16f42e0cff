import Wiring.Text.Segments

/-!
Paths of files, compared by their components: repeated separators and inner dots mean nothing.
-/

set_option autoImplicit false

namespace Wiring.Files

open Wiring.Text

def splitAtChar (separator : Char) : List Char → List (List Char)
  | [] => [[]]
  | c :: rest =>
      if c == separator then [] :: splitAtChar separator rest
      else
        match splitAtChar separator rest with
        | [] => [[c]]
        | first :: more => (c :: first) :: more

def isAbsolute (path : String) : Bool :=
  startsWith "/" path

/-- The components of a path. The root and a dot at the head of a path are components. -/
def components (path : String) : List String :=
  let parts := (splitAtChar '/' path.toList).map String.ofList
  let body := parts.filter fun part => part != "" && part != "."
  if isAbsolute path then "/" :: body
  else if parts.head? == some "." then "." :: body
  else body

def samePath (left right : String) : Bool :=
  components left == components right

/-- A path extended by another one; an absolute one replaces it. -/
def join (base path : String) : String :=
  if isAbsolute path then path
  else if base.isEmpty || endsWith "/" base then base ++ path
  else base ++ "/" ++ path

/-- Whether the last components of a path are those of another one. -/
def pathEndsWith (path tail : String) : Bool :=
  (components tail).isSuffixOf (components path)

def below? (base path : String) : Option (List String) :=
  let front := components base
  let all := components path
  if front.isPrefixOf all then some (all.drop front.length) else none

def fileName? (path : String) : Option String :=
  match (components path).getLast? with
  | some last => if ["/", ".", ".."].contains last then none else some last
  | none => none

def splitLastDot? : List Char → Option (List Char × List Char)
  | [] => none
  | c :: rest =>
      match splitLastDot? rest with
      | some (front, last) => some (c :: front, last)
      | none => if c == '.' then some ([], rest) else none

/-- A file name without its extension, and the extension. A dot at the head begins none. -/
def splitExtension (name : String) : String × Option String :=
  match splitLastDot? name.toList with
  | some ([], _) => (name, none)
  | some (stem, extension) => (String.ofList stem, some (String.ofList extension))
  | none => (name, none)

def extension? (path : String) : Option String :=
  (fileName? path).bind fun name => (splitExtension name).2

/-- Components without the extension of the last one. A lone dot that is left over stands for the
directory before it. -/
def dropExtension (parts : List String) : List String :=
  match parts.getLast? with
  | some last =>
      let front := parts.dropLast
      let stem := (splitExtension last).1
      if ["/", ".", ".."].contains last then parts
      else if stem == "." && !front.isEmpty then front
      else front ++ [stem]
  | none => parts

end Wiring.Files
