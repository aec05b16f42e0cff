import Wiring.Grammar.SyntaxTree

/-!
The text of a tree: its tokens with one space between them. A joined punctuation character takes
no space after it, parentheses and square brackets have no inner space, and a brace has one.
-/

set_option autoImplicit false

namespace Wiring.Grammar

structure Piece where
  text : String
  joined : Bool
deriving DecidableEq, Repr

def joinPieces : List Piece → String
  | [] => ""
  | [piece] => piece.text
  | piece :: rest => piece.text ++ (if piece.joined then "" else " ") ++ joinPieces rest

def enclose (delimiter : Delimiter) (body : String) : String :=
  match delimiter with
  | .parenthesis => "(" ++ body ++ ")"
  | .bracket => "[" ++ body ++ "]"
  | .brace => if body.isEmpty then "\x7b \x7d" else "\x7b " ++ body ++ " \x7d"

structure GenericPart where
  isLifetime : Bool
  isComma : Bool
  pieces : List Piece

/-- The pieces of a list with its lifetimes moved in front of everything else; a comma is put in
where the last lifetime had none. -/
def lifetimesFirst (parts : List GenericPart) : List Piece :=
  let elements := pairs parts
  let lifetimes := elements.filter (·.1)
  let others := elements.filter (!·.1)
  let missing :=
    match lifetimes.getLast?, others with
    | some (_, _, none), _ :: _ => [⟨",", false⟩]
    | _, _ => []
  lifetimes.flatMap written ++ missing ++ others.flatMap written
where
  pairs : List GenericPart → List (Bool × List Piece × Option (List Piece))
    | [] => []
    | value :: comma :: rest =>
        if comma.isComma then (value.isLifetime, value.pieces, some comma.pieces) :: pairs rest
        else (value.isLifetime, value.pieces, none) :: pairs (comma :: rest)
    | [value] => [(value.isLifetime, value.pieces, none)]
  written : Bool × List Piece × Option (List Piece) → List Piece
    | (_, pieces, comma) => pieces ++ comma.getD []

/-- The pieces of a generic list: what opens it, its elements and what closes it. -/
def genericPieces (parts : List GenericPart) : List Piece :=
  let opened := parts.takeWhile fun part => part.pieces == [⟨"::", false⟩]
  match parts.drop opened.length with
  | [] => []
  | angle :: rest =>
      let close := rest.getLast?.map (·.pieces)
      opened.flatMap (·.pieces) ++ angle.pieces ++ lifetimesFirst rest.dropLast ++ close.getD []

namespace SyntaxTree

def isLifetimeElement : SyntaxTree → Bool
  | .node .lifetimeArgument _ => true
  | .node .lifetimeParameter _ => true
  | _ => false

def isComma : SyntaxTree → Bool
  | .token _ "," _ _ => true
  | _ => false

mutual

def pieces : SyntaxTree → List Piece
  | .token .joined text _ _ => [⟨text, true⟩]
  | .token _ text _ _ => [⟨text, false⟩]
  | .group delimiter body _ _ => [⟨enclose delimiter (joinPieces (piecesOf body)), false⟩]
  | .node .genericArguments children => genericPieces (partsOf children)
  | .node .generics children => genericPieces (partsOf children)
  | .node _ children => piecesOf children

def piecesOf : List SyntaxTree → List Piece
  | [] => []
  | tree :: rest => tree.pieces ++ piecesOf rest

def partsOf : List SyntaxTree → List GenericPart
  | [] => []
  | tree :: rest => ⟨tree.isLifetimeElement, tree.isComma, tree.pieces⟩ :: partsOf rest

end

def text (tree : SyntaxTree) : String :=
  joinPieces tree.pieces

def textOf (trees : List SyntaxTree) : String :=
  joinPieces (piecesOf trees)

mutual

/-- Whether two trees are the same code, whatever lines they stand on. -/
def sameCode : SyntaxTree → SyntaxTree → Bool
  | .token kind text _ _, .token kind' text' _ _ => kind == kind' && text == text'
  | .group delimiter body _ _, .group delimiter' body' _ _ =>
      delimiter == delimiter' && sameCodes body body'
  | .node kind children, .node kind' children' => kind == kind' && sameCodes children children'
  | _, _ => false

def sameCodes : List SyntaxTree → List SyntaxTree → Bool
  | [], [] => true
  | tree :: rest, tree' :: rest' => sameCode tree tree' && sameCodes rest rest'
  | _, _ => false

end

end SyntaxTree

end Wiring.Grammar
