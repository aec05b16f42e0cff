import Wiring.Grammar.Item
import Wiring.Grammar.Lexer

/-!
Whole texts read as one form of the grammar. The nonterminals nest in one another to a depth that
the number of tokens bounds.
-/

set_option autoImplicit false

namespace Wiring.Grammar

namespace SyntaxTree

mutual

/-- The number of tokens in a tree; a group counts for two more. -/
def tokenCount : SyntaxTree → Nat
  | .token _ _ _ _ => 1
  | .group _ body _ _ => tokenCountOf body + 2
  | .node _ children => tokenCountOf children

def tokenCountOf : List SyntaxTree → Nat
  | [] => 0
  | tree :: rest => tokenCount tree + tokenCountOf rest

end

end SyntaxTree

namespace Reader

def nonterminal : Nat → Nested
  | 0, _ => expected []
  | depth + 1, form =>
      let nested := nonterminal depth
      match form with
      | .type plus => type nested plus
      | .bound rules => bound nested rules
      | .parameter => genericParameter nested
      | .expr braces => expr nested braces
      | .unary braces => unary nested braces
      | .boundary => boundary nested
      | .pattern => pattern nested
      | .alternatives => alternatives nested
      | .statements => statements nested
      | .item => item nested
      | .useTree roots => useTree nested roots

/-- A depth that no text of so many tokens exceeds: of any six levels in a row one takes a
token. -/
def depthFor (tokens : List SyntaxTree) : Nat :=
  6 * SyntaxTree.tokenCountOf tokens + 16

def nestedFor (tokens : List SyntaxTree) : Nested :=
  nonterminal (depthFor tokens)

end Reader

def LexError.toSyntaxError (error : LexError) : SyntaxError :=
  ⟨.unlexable, error.line, false⟩

def parseTokensIn {α : Type} (reader : Nested → Reader α) (scope : Scope)
    (tokens : List SyntaxTree) : Except SyntaxError α :=
  Reader.run (reader (Reader.nestedFor tokens)) scope tokens

def parseTokens {α : Type} (reader : Nested → Reader α) (tokens : List SyntaxTree) :
    Except SyntaxError α :=
  parseTokensIn reader Reader.wholeText tokens

def parseText {α : Type} (reader : Nested → Reader α) (text : String) : Except SyntaxError α :=
  match lex text with
  | .error error => .error error.toSyntaxError
  | .ok tokens => parseTokens reader tokens

/-! ## Forms -/

def typeForm (nested : Nested) : Reader SyntaxTree :=
  nested (.type true)

def pathForm (nested : Nested) : Reader SyntaxTree :=
  Reader.path nested false

def exprForm (nested : Nested) : Reader SyntaxTree :=
  nested (.expr true)

def nameForm (_ : Nested) : Reader SyntaxTree :=
  Reader.name

def itemForm (nested : Nested) : Reader SyntaxTree :=
  nested .item

/-- A use item; entries at a crate root are not allowed in its groups. -/
def useForm (nested : Nested) : Reader SyntaxTree := do
  let attributes ← Reader.outerAttributes nested
  Reader.useItem nested [] attributes false

def deriveForm (nested : Nested) : Reader SyntaxTree :=
  Reader.deriveItem nested

/-! ## Files -/

/-- Drops the line that names an interpreter. What could begin an attribute is no such line. -/
def dropInterpreterLine (cs : List Char) : List Char :=
  match cs with
  | '#' :: '!' :: rest =>
      match skipBlanks rest.length rest with
      | '[' :: _ => cs
      | _ => (splitLine cs).2
  | _ => cs

def parseFile (text : String) : Except SyntaxError SyntaxTree :=
  let cs := dropInterpreterLine (dropByteOrderMark text.toList)
  match lexFrom 1 cs with
  | .error error => .error error.toSyntaxError
  | .ok tokens => parseTokens Reader.file tokens

end Wiring.Grammar
