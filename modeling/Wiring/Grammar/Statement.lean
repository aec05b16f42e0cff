import Wiring.Grammar.Expr

/-!
Statements of a block.
-/

set_option autoImplicit false

namespace Wiring.Grammar

def Ahead.constItem (ahead : List SyntaxTree) : Bool :=
  Ahead.word "const" ahead &&
    !(Ahead.second (Ahead.group .brace) ahead || Ahead.second (Ahead.word "static") ahead ||
      (Ahead.second (Ahead.word "async") ahead &&
        !(Ahead.third (Ahead.word "unsafe") ahead || Ahead.third (Ahead.word "extern") ahead ||
          Ahead.third (Ahead.word "fn") ahead)) ||
      Ahead.second (Ahead.word "move") ahead || Ahead.second (Ahead.punct "|") ahead)

def Ahead.staticItem (ahead : List SyntaxTree) : Bool :=
  Ahead.word "static" ahead &&
    (Ahead.second (Ahead.word "mut") ahead || Ahead.second Ahead.name ahead)

def Ahead.itemStatement (ahead : List SyntaxTree) : Bool :=
  let word (text : String) : Bool := Ahead.word text ahead
  let next (test : List SyntaxTree → Bool) : Bool := Ahead.second test ahead
  word "pub" || (word "crate" && !next (Ahead.punct "::")) || word "extern" || word "use" ||
    Ahead.staticItem ahead || Ahead.constItem ahead ||
    (word "unsafe" && !next (Ahead.group .brace)) ||
    (word "async" &&
      (next (Ahead.word "unsafe") || next (Ahead.word "extern") || next (Ahead.word "fn"))) ||
    word "fn" || word "mod" || word "type" || word "struct" || word "enum" ||
    (word "union" && next Ahead.name) || (word "auto" && next (Ahead.word "trait")) ||
    word "trait" ||
    (word "default" && (next (Ahead.word "unsafe") || next (Ahead.word "impl"))) ||
    word "impl" || word "macro"

namespace Reader

inductive MacroHead where
  | none
  | item
  | call

def macroHead : Reader MacroHead := lookAhead do
  match ← attempt plainPath with
  | none => return .none
  | some _ =>
      let found ← ahead
      if !Ahead.punct "!" found then return .none
      else if Ahead.second Ahead.name found || Ahead.second (Ahead.word "try") found then
        return .item
      else if Ahead.second (Ahead.group .brace) found &&
          !((Ahead.third (Ahead.punct ".") found && !Ahead.third (Ahead.punct "..") found) ||
            Ahead.third (Ahead.punct "?") found) then return .call
      else return .none

def localVariable (nested : Nested) (attributes : List SyntaxTree) : Reader SyntaxTree := do
  let word ← keyword "let"
  let target ← nested .pattern
  let annotation ←
    if ← peek (Ahead.punct ":") then
      let colon ← punct ":"
      pure [colon, ← nested (.type true)]
    else pure []
  let value ←
    if ← peek (Ahead.punct "=") then
      let equals ← punct "="
      let value ← nested (.expr true)
      if !value.endsWithBrace && (← peek (Ahead.word "else")) then
        let otherwise ← keyword "else"
        pure [equals, value, otherwise, ← plainBlock nested]
      else pure [equals, value]
    else pure []
  let semicolon ← punct ";"
  return .node .statement (attributes ++ [word, target] ++ annotation ++ value ++ [semicolon])

def macroStatement (attributes : List SyntaxTree) : Reader SyntaxTree := do
  let path ← plainPath
  let bang ← punct "!"
  let arguments ← rawGroup
  return .node .statement
    (attributes ++ [.node .macroExpr [path, bang, arguments]] ++ (← punct? ";"))

def attributeOperand (attributes : List SyntaxTree) : SyntaxTree → SyntaxTree
  | .node .binaryExpr (left :: rest) =>
      .node .binaryExpr (attributeOperand attributes left :: rest)
  | tree => tree.withAttributes attributes

def exprStatement (nested : Nested) (attributes : List SyntaxTree) : Reader SyntaxTree := do
  let tree := attributeOperand attributes (← nested .boundary)
  return .node .statement (tree :: (← punct? ";"))

def lacksSemicolon : SyntaxTree → Bool
  | .node .statement [only] => !only.hasKind .blockLikeExpr && !only.isBraceMacro
  | _ => false

/-- Reads one statement; an item is read by `item` from before its attributes. -/
def statement (nested : Nested) : Reader SyntaxTree := do
  let start ← get
  let attributes ← outerAttributes nested
  let found ← ahead
  match ← macroHead with
  | .call => macroStatement attributes
  | .item =>
      set start
      nested .item
  | .none =>
      if Ahead.word "let" found then localVariable nested attributes
      else if Ahead.itemStatement found then
        set start
        nested .item
      else exprStatement nested attributes

/-- Reads the statements of a block; lone semicolons may stand anywhere between them. -/
def statements (nested : Nested) : Reader SyntaxTree := do
  return .node .tokens (← loop (2 * (← ahead).length + 2) [])
where
  loop : Nat → List SyntaxTree → Reader (List SyntaxTree)
    | 0, done => return done.reverse
    | fuel + 1, done => do
        if ← isEmpty then return done.reverse
        else if ← peek (Ahead.punct ";") then loop fuel ((← punct ";") :: done)
        else
          let tree ← statement nested
          if ← isEmpty then return (tree :: done).reverse
          else if lacksSemicolon tree then refuse .semicolonMissing
          else loop fuel (tree :: done)

end Reader

end Wiring.Grammar
