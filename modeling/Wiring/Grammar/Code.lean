import Wiring.Grammar.SyntaxTree
import Wiring.Grammar.Whole

/-!
Code that is put together: words, string literals and groups.
-/

set_option autoImplicit false

namespace Wiring.Grammar

open Wiring.Text

def codeWords : List Char → List (List Char)
  | [] => [[]]
  | c :: rest =>
      match c, codeWords rest with
      | ' ', words => [] :: words
      | c, [] => [[c]]
      | c, word :: words => (c :: word) :: words

/-- A text as a token; one that leaves a quote or a bracket open stands for nothing. -/
def SyntaxTree.ofText (kind : TokenKind) (text : String) : SyntaxTree :=
  if whole : isWhole (kind == .joined) text = true then .token kind text 1 whole
  else .node .tokens []

/-- A word as a token: a name or a keyword, or punctuation. -/
def codeToken (word : List Char) : SyntaxTree :=
  match word with
  | '\'' :: _ => .ofText .lifetime (String.ofList word)
  | c :: _ => .ofText (if c.isAlpha || c == '_' then .ident else .punct) (String.ofList word)
  | [] => .ofText .punct ""

def code (text : String) : List SyntaxTree :=
  (codeWords text.toList).map codeToken

def literalCode (text : String) : SyntaxTree :=
  .token .literal (stringLiteral text) 1 (isWhole_stringLiteral text)

def inParentheses (body : List SyntaxTree) : SyntaxTree :=
  .group .parenthesis body 1 1

def inBrackets (body : List SyntaxTree) : SyntaxTree :=
  .group .bracket body 1 1

def inBraces (body : List SyntaxTree) : SyntaxTree :=
  .group .brace body 1 1

def withCommas : List (List SyntaxTree) → List SyntaxTree
  | [] => []
  | [piece] => piece
  | piece :: rest => piece ++ code "," ++ withCommas rest

end Wiring.Grammar
