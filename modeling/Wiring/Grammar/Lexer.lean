import Wiring.Grammar.Token

/-!
Tokens of a source text. Blanks and comments separate tokens and are dropped, a documentation
comment becomes the attribute it stands for, and matching brackets enclose groups.
-/

set_option autoImplicit false

namespace Wiring.Grammar

open Wiring.Text

/-- Text that holds no token: it does not lex. The line is where the trouble starts. -/
structure LexError where
  line : Nat
deriving DecidableEq, Repr

/-- One step of the lexer: a token, a bracket, or text that is neither. -/
inductive Lexeme where
  | tree (tree : SyntaxTree)
  | opened (delimiter : Delimiter) (line : Nat)
  | closed (delimiter : Delimiter) (line : Nat)
  | bad (line : Nat)

/-! ## Blanks and comments -/

/-- A blank between tokens; the two direction marks count as blanks. -/
def isBlank (c : Char) : Bool :=
  isWhiteSpace c || c.toNat == 0x200e || c.toNat == 0x200f

/-- The rest after a block comment of the given depth; comments nest. -/
def blockEnd? : Nat → List Char → Option (List Char)
  | _, [] => none
  | depth, '/' :: '*' :: rest => blockEnd? (depth + 1) rest
  | depth, '*' :: '/' :: rest => if depth ≤ 1 then some rest else blockEnd? (depth - 1) rest
  | depth, _ :: rest => blockEnd? depth rest

def splitLine : List Char → List Char × List Char
  | [] => ([], [])
  | '\n' :: rest => ([], '\n' :: rest)
  | '\r' :: '\n' :: rest => ([], '\n' :: rest)
  | c :: rest => let (line, after) := splitLine rest; (c :: line, after)

def blankEnd? (cs : List Char) : Option (List Char) :=
  match cs with
  | '/' :: '/' :: '/' :: '/' :: rest => some (splitLine rest).2
  | '/' :: '/' :: '/' :: _ => none
  | '/' :: '/' :: '!' :: _ => none
  | '/' :: '/' :: rest => some (splitLine rest).2
  | '/' :: '*' :: '*' :: '/' :: rest => some rest
  | '/' :: '*' :: '*' :: '*' :: rest => blockEnd? 1 ('*' :: '*' :: rest)
  | '/' :: '*' :: '*' :: _ => none
  | '/' :: '*' :: '!' :: _ => none
  | '/' :: '*' :: rest => blockEnd? 1 rest
  | c :: rest => if isBlank c then some rest else none
  | [] => none

def skipBlanks : Nat → List Char → List Char
  | 0, cs => cs
  | fuel + 1, cs =>
      match blankEnd? cs with
      | some rest => skipBlanks fuel rest
      | none => cs

/-! ## Documentation comments -/

/-- A documentation comment: its text, whether it documents what encloses it, and the rest. -/
def docComment? (cs : List Char) : Option (List Char × Bool × List Char) :=
  match cs with
  | '/' :: '/' :: '!' :: rest => let (text, after) := splitLine rest; some (text, true, after)
  | '/' :: '*' :: '!' :: rest => (block rest).map fun (text, after) => (text, true, after)
  | '/' :: '/' :: '/' :: '/' :: _ => none
  | '/' :: '/' :: '/' :: rest => let (text, after) := splitLine rest; some (text, false, after)
  | '/' :: '*' :: '*' :: '*' :: _ => none
  | '/' :: '*' :: '*' :: rest => (block rest).map fun (text, after) => (text, false, after)
  | _ => none
where
  block (rest : List Char) : Option (List Char × List Char) :=
    (blockEnd? 1 rest).map fun after => (rest.take (rest.length - after.length - 2), after)

def returnsEndLines : List Char → Bool
  | [] => true
  | '\r' :: '\n' :: rest => returnsEndLines rest
  | '\r' :: _ => false
  | _ :: rest => returnsEndLines rest

def docAttribute (text : List Char) (inner : Bool) (line : Nat) : List SyntaxTree :=
  let bang := if inner then [SyntaxTree.token .punct "!" line (by decide)] else []
  [SyntaxTree.token .punct "#" line (by decide)] ++ bang ++
    [SyntaxTree.group .bracket
      [.token .ident "doc" line (by decide), .token .punct "=" line (by decide),
        .token .literal (stringLiteral (String.ofList text)) line (isWhole_stringLiteral _)]
      line line]

/-! ## Brackets -/

def opening? (c : Char) : Option Delimiter :=
  if c == '(' then some .parenthesis
  else if c == '[' then some .bracket
  else if c == '\x7b' then some .brace
  else none

def closing? (c : Char) : Option Delimiter :=
  if c == ')' then some .parenthesis
  else if c == ']' then some .bracket
  else if c == '\x7d' then some .brace
  else none

/-! ## The whole text -/

def lineAfter (line : Nat) (cs rest : List Char) : Nat :=
  line + (cs.take (cs.length - rest.length)).countP (· == '\n')

def errorMark : String := "(/*ERROR*/)"

def nextLexemes (line : Nat) (cs : List Char) : List Lexeme × List Char :=
  let doc :=
    match docComment? cs with
    | some (text, inner, rest) =>
        if returnsEndLines text then some ((docAttribute text inner line).map Lexeme.tree, rest)
        else none
    | none => none
  match doc, cs with
  | some found, _ => found
  | none, [] => ([], [])
  | none, c :: rest =>
      match dropLead? errorMark cs with
      | some after => ([.tree (.token .literal errorMark line (by decide))], after)
      | none =>
          match opening? c, closing? c with
          | some delimiter, _ => ([.opened delimiter line], rest)
          | none, some delimiter => ([.closed delimiter line], rest)
          | none, none =>
              match ends : tokenEnd? cs with
              | some (kind, after) =>
                  ([.tree (.token kind (frontOf cs after) line (isWhole_of_tokenEnd? ends))], after)
              | none => ([.bad line], [])

/-- The lexemes of a text that starts on a line. Each round consumes a character, so the length
of the text bounds the rounds. -/
def lexemesFrom : Nat → Nat → List Char → List Lexeme
  | 0, _, _ => []
  | fuel + 1, line, cs =>
      let start := skipBlanks cs.length cs
      let line := lineAfter line cs start
      if start.isEmpty then []
      else
        let (found, rest) := nextLexemes line start
        found ++ lexemesFrom fuel (lineAfter line start rest) rest

/-- A bracket that waits for its partner: what stood before it, in reverse order. -/
structure OpenGroup where
  delimiter : Delimiter
  line : Nat
  before : List SyntaxTree

def assemble : List OpenGroup → List SyntaxTree → List Lexeme → Except LexError (List SyntaxTree)
  | [], done, [] => .ok done.reverse
  | waiting :: _, _, [] => .error ⟨waiting.line⟩
  | stack, done, .tree tree :: rest => assemble stack (tree :: done) rest
  | stack, done, .opened delimiter line :: rest =>
      assemble (⟨delimiter, line, done⟩ :: stack) [] rest
  | [], _, .closed _ line :: _ => .error ⟨line⟩
  | waiting :: stack, done, .closed delimiter line :: rest =>
      if waiting.delimiter == delimiter then
        assemble stack (.group delimiter done.reverse waiting.line line :: waiting.before) rest
      else .error ⟨line⟩
  | _, _, .bad line :: _ => .error ⟨line⟩

def dropByteOrderMark : List Char → List Char
  | [] => []
  | c :: rest => if c.toNat == 0xfeff then rest else c :: rest

def lexFrom (line : Nat) (cs : List Char) : Except LexError (List SyntaxTree) :=
  let cs := dropByteOrderMark cs
  assemble [] [] (lexemesFrom (cs.length + 1) line cs)

def lex (text : String) : Except LexError (List SyntaxTree) :=
  lexFrom 1 text.toList

end Wiring.Grammar
