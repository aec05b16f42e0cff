import Wiring.Grammar.SyntaxTree

/-!
Views of trees: what paths, types, attributes, items and calls consist of.
-/

set_option autoImplicit false

namespace Wiring.Grammar

namespace SyntaxTree

/-! ## Paths -/

def isPunct (text : String) : SyntaxTree → Bool
  | .token .punct found _ _ => found == text
  | _ => false

def segments (path : SyntaxTree) : List SyntaxTree :=
  path.childrenOf .segment

def segmentName (segment : SyntaxTree) : String :=
  (segment.children.head?.bind text?).getD ""

def pathNames (path : SyntaxTree) : List String :=
  path.segments.map segmentName

/-- Whether a path begins with `::`. -/
def isAbsolutePath (path : SyntaxTree) : Bool :=
  path.children.head?.any (isPunct "::")

/-- The name that a path consists of: one segment without arguments. -/
def lonePathName? (path : SyntaxTree) : Option String :=
  match path.children with
  | [.node .segment [name]] => name.text?
  | _ => none

def lastArguments? (path : SyntaxTree) : Option SyntaxTree :=
  path.segments.getLast?.bind fun segment => segment.children[1]?

def withLastArguments (arguments : List SyntaxTree) (path : SyntaxTree) : SyntaxTree :=
  match path with
  | .node .path parts =>
      match parts.getLast? with
      | some (.node .segment (name :: _)) =>
          .node .path (parts.dropLast ++ [.node .segment (name :: arguments)])
      | _ => path
  | _ => path

/-- The path that a qualified one stands for: that of its trait and what follows, or only what
follows when it names no trait. -/
def qualifiedParts (parts : List SyntaxTree) : SyntaxTree :=
  let cast := parts.findSome? fun
    | .node .path inner => some inner
    | _ => none
  let after := (parts.dropWhile fun part => !isPunct ">" part).drop 1
  .node .path (cast.getD [] ++ after)

/-- The path that a type refers to: that of a named type, or the first trait of a trait object. -/
def typePath? : SyntaxTree → Option SyntaxTree
  | .node .pathType [path] => some path
  | .node .qualifiedType parts => some (qualifiedParts parts)
  | .node .traitObjectType bounds =>
      bounds.findSome? fun
        | .node .traitBound parts => parts.find? (hasKind .path)
        | .group .parenthesis [.node .traitBound parts] _ _ => parts.find? (hasKind .path)
        | _ => none
  | .node .parenthesizedType [.group _ [inner] _ _] => typePath? inner
  | _ => none

def exprPath? : SyntaxTree → Option SyntaxTree
  | .node .pathExpr parts => parts.find? (hasKind .path)
  | .node .qualifiedExpr parts => some (qualifiedParts parts)
  | _ => none

/-! ## Attributes -/

def attributeBody? (item : SyntaxTree) : Option SyntaxTree :=
  item.groupBody?.bind List.head?

def attributePath? (item : SyntaxTree) : Option SyntaxTree :=
  item.attributeBody?.bind fun body => body.children.head?

def isInnerAttribute (item : SyntaxTree) : Bool :=
  item.children.any (isPunct "!")

def attributes (tree : SyntaxTree) : List SyntaxTree :=
  tree.childrenOf .attribute

def bare : SyntaxTree → SyntaxTree
  | .node kind parts => .node kind (parts.filter fun part => !part.hasKind .attribute)
  | tree => tree

/-- The attributes of an item: those in front of it and those at the head of its body. -/
def allAttributes (tree : SyntaxTree) : List SyntaxTree :=
  tree.attributes ++ (tree.groupBody?.getD []).filter (hasKind .attribute)

/-! ## Items -/

def nameToken? (tree : SyntaxTree) : Option SyntaxTree :=
  (tree.child? .name).bind fun name => name.children.head?

def itemName (tree : SyntaxTree) : String :=
  (tree.nameToken?.bind text?).getD ""

def nameLine (tree : SyntaxTree) : Nat :=
  (tree.nameToken?.map line).getD 1

def typeParameterCount (tree : SyntaxTree) : Nat :=
  (((tree.child? .generics).map (childrenOf .typeParameter)).getD []).length

def fieldsWithNames (tree : SyntaxTree) : List SyntaxTree :=
  match tree.child? .namedFields with
  | some fields => (fields.groupBody?.getD []).filter (hasKind .field)
  | none => []

def isPublic (tree : SyntaxTree) : Bool :=
  (tree.child? .visibility).isSome

def fieldType? (tree : SyntaxTree) : Option SyntaxTree :=
  (tree.child? .fieldType).bind fun type => type.children.head?

/-! ## Functions and calls -/

def signatureInputs (signature : SyntaxTree) : List SyntaxTree :=
  (signature.groupBody?.getD []).filter fun part =>
    part.hasKind .receiver || part.hasKind .parameter

def outputType? (signature : SyntaxTree) : Option SyntaxTree :=
  (signature.child? .returnType).bind fun output => output.children[1]?

def boundName? (parameter : SyntaxTree) : Option String :=
  match (parameter.child? .pattern).bind fun pattern => pattern.children.head? with
  | some tree => if tree.hasKind .identPattern then some tree.itemName else none
  | none => none

def genericArgumentList (arguments : SyntaxTree) : List SyntaxTree :=
  arguments.children.filter fun part =>
    part.hasKind .typeArgument || part.hasKind .lifetimeArgument || part.hasKind .constArgument ||
      part.hasKind .bindingArgument

def argumentType? : SyntaxTree → Option SyntaxTree
  | .node .typeArgument [type] => some type
  | _ => none

end SyntaxTree

end Wiring.Grammar
