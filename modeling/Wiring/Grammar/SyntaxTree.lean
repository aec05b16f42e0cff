import Wiring.Grammar.Extent

/-!
Concrete syntax trees of Rust source. A tree is a token, a delimited group or a node of the
grammar with its parts in source order, so a source without its layout is read off the leaves.
A token leaves no quote or bracket open.
-/

set_option autoImplicit false

namespace Wiring.Grammar

inductive Delimiter where
  | parenthesis
  | bracket
  | brace
deriving DecidableEq, Repr

/-- The kinds of token. A punctuation character is joined when another follows it at once. -/
inductive TokenKind where
  | ident
  | lifetime
  | literal
  | punct
  | joined
deriving DecidableEq, Repr

inductive NodeKind where
  -- attributes
  | attribute | metaPath | metaList | metaValue
  -- paths and their arguments
  | path | segment | genericArguments | lifetimeArgument | typeArgument | constArgument
  | bindingArgument | parenthesizedArguments
  -- types
  | pathType | qualifiedType | parenthesizedType | referenceType | traitObjectType
  | implTraitType | inferredType | macroType | otherType | traitBound
  -- generics
  | generics | lifetimeParameter | typeParameter | constParameter | parameterBounds
  | parameterDefault | whereClause
  -- fields
  | visibility | restrictedVisibility | name | namedFields | tupleFields | field | fieldType
  -- functions
  | signature | receiver | parameter | pattern | returnType
  -- items
  | moduleItem | useItem | structItem | enumItem | unionItem | implItem | functionItem | traitItem
  | otherItem | verbatim | implTrait | selfType | method
  -- imports
  | usePath | useName | useRename | useGlob | useGroup
  -- patterns
  | identPattern | restPattern | openRangePattern | otherPattern
  -- expressions
  | pathExpr | qualifiedExpr | structExpr | callExpr | parenExpr | methodCallExpr | unaryExpr
  | binaryExpr | rangeExpr | literalExpr | macroExpr | blockLikeExpr | otherExpr
  -- statements and lists
  | statement | tokens
deriving DecidableEq, Repr

/-- A concrete syntax tree; lines are numbered from one. -/
inductive SyntaxTree where
  | token (kind : TokenKind) (text : String) (line : Nat)
      (whole : isWhole (kind == .joined) text = true)
  | group (delimiter : Delimiter) (body : List SyntaxTree) (openLine closeLine : Nat)
  | node (kind : NodeKind) (children : List SyntaxTree)

namespace SyntaxTree

def firstLine? : SyntaxTree → Option Nat
  | .token _ _ line _ => some line
  | .group _ _ line _ => some line
  | .node _ children => firstLineOf? children
where
  firstLineOf? : List SyntaxTree → Option Nat
    | [] => none
    | tree :: rest => (firstLine? tree).or (firstLineOf? rest)

/-- The line of the first token of a tree; a tree without tokens stands on line one. -/
def line (tree : SyntaxTree) : Nat :=
  tree.firstLine?.getD 1

/-- The parts of a node; none for a leaf. -/
def children : SyntaxTree → List SyntaxTree
  | .node _ children => children
  | _ => []

def hasKind (kind : NodeKind) : SyntaxTree → Bool
  | .node k _ => k == kind
  | _ => false

def child? (kind : NodeKind) (tree : SyntaxTree) : Option SyntaxTree :=
  tree.children.find? (hasKind kind)

def childrenOf (kind : NodeKind) (tree : SyntaxTree) : List SyntaxTree :=
  tree.children.filter (hasKind kind)

def groupBody? (tree : SyntaxTree) : Option (List SyntaxTree) :=
  tree.children.findSome? fun
    | .group _ body _ _ => some body
    | _ => none

def text? : SyntaxTree → Option String
  | .token _ text _ _ => some text
  | _ => none

def withAttributes (attributes : List SyntaxTree) : SyntaxTree → SyntaxTree
  | .node kind children => .node kind (attributes ++ children)
  | tree => if attributes.isEmpty then tree else .node .otherExpr (attributes ++ [tree])

end SyntaxTree

end Wiring.Grammar
