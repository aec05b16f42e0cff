import Wiring.Grammar.Pattern

/-!
Expressions. Operands are read first and binary operators climb by how tightly they bind.
-/

set_option autoImplicit false

namespace Wiring.Grammar

inductive Precedence where
  | lowest | assign | range | or | and | binding | compare | bitOr | bitXor | bitAnd | shift
  | sum | product | cast
deriving DecidableEq, Repr

def Precedence.rank : Precedence → Nat
  | .lowest => 0
  | .assign => 1
  | .range => 2
  | .or => 3
  | .and => 4
  | .binding => 5
  | .compare => 6
  | .bitOr => 7
  | .bitXor => 8
  | .bitAnd => 9
  | .shift => 10
  | .sum => 11
  | .product => 12
  | .cast => 13

/-- Binary operators; a longer one stands before those it begins with. -/
def binaryOperators : List (String × Precedence) := [
  ("+=", .assign), ("-=", .assign), ("*=", .assign), ("/=", .assign), ("%=", .assign),
  ("^=", .assign), ("&=", .assign), ("|=", .assign), ("<<=", .assign), (">>=", .assign),
  ("&&", .and), ("||", .or), ("<<", .shift), (">>", .shift), ("==", .compare), ("<=", .compare),
  ("!=", .compare), (">=", .compare), ("+", .sum), ("-", .sum), ("*", .product), ("/", .product),
  ("%", .product), ("^", .bitXor), ("&", .bitAnd), ("|", .bitOr), ("<", .compare),
  (">", .compare)]

def Ahead.operator? (ahead : List SyntaxTree) : Option (String × Precedence) :=
  binaryOperators.find? fun entry => Ahead.punct entry.1 ahead

def Ahead.precedence (ahead : List SyntaxTree) : Precedence :=
  match Ahead.operator? ahead with
  | some (_, precedence) => precedence
  | none =>
      if Ahead.punct "=" ahead && !Ahead.punct "=>" ahead then .assign
      else if Ahead.punct ".." ahead then .range
      else if Ahead.word "as" ahead then .cast
      else .lowest

def Ahead.expr (ahead : List SyntaxTree) : Bool :=
  (Ahead.anyWord ahead && !Ahead.word "as" ahead) || Ahead.group .parenthesis ahead ||
    Ahead.group .bracket ahead || Ahead.group .brace ahead || Ahead.literal ahead ||
    (Ahead.punct "!" ahead && !Ahead.punct "!=" ahead) ||
    (Ahead.punct "-" ahead && !Ahead.punct "-=" ahead && !Ahead.punct "->" ahead) ||
    (Ahead.punct "*" ahead && !Ahead.punct "*=" ahead) ||
    (Ahead.punct "|" ahead && !Ahead.punct "|=" ahead) ||
    (Ahead.punct "&" ahead && !Ahead.punct "&=" ahead) || Ahead.punct ".." ahead ||
    (Ahead.punct "<" ahead && !Ahead.punct "<=" ahead && !Ahead.punct "<<=" ahead) ||
    Ahead.punct "::" ahead || Ahead.lifetime ahead || Ahead.punct "#" ahead

def Ahead.closureBinder (ahead : List SyntaxTree) : Bool :=
  Ahead.word "for" ahead && Ahead.second (Ahead.punct "<") ahead &&
    (Ahead.third Ahead.lifetime ahead || Ahead.third (Ahead.punct ">") ahead)

def Ahead.closure (ahead : List SyntaxTree) : Bool :=
  Ahead.punct "|" ahead || Ahead.word "move" ahead || Ahead.closureBinder ahead ||
    (Ahead.word "const" ahead && !Ahead.second (Ahead.group .brace) ahead) ||
    Ahead.word "static" ahead ||
    (Ahead.word "async" ahead &&
      (Ahead.second (Ahead.punct "|") ahead || Ahead.second (Ahead.word "move") ahead))

def Ahead.rangeEnds (braces : Bool) (ahead : List SyntaxTree) : Bool :=
  ahead.isEmpty || Ahead.punct "," ahead || Ahead.punct ";" ahead ||
    (Ahead.punct "." ahead && !Ahead.punct ".." ahead) || Ahead.punct "?" ahead ||
    Ahead.punct "=>" ahead || (!braces && Ahead.group .brace ahead) ||
    ["=", "+", "/", "%", "^", ">", "<=", "!=", "-=", "*=", "&=", "|=", "<<="].any
      (fun text => Ahead.punct text ahead) || Ahead.word "as" ahead

namespace SyntaxTree

def lastLeaf? : SyntaxTree → Option SyntaxTree
  | .node _ children => lastLeafOf? children
  | tree => some tree
where
  lastLeafOf? : List SyntaxTree → Option SyntaxTree
    | [] => none
    | tree :: rest => (lastLeafOf? rest).or (lastLeaf? tree)

def endsWithBrace (tree : SyntaxTree) : Bool :=
  match tree.lastLeaf? with
  | some (.group .brace _ _ _) => true
  | _ => false

def isComparison : SyntaxTree → Bool
  | .node .binaryExpr parts =>
      parts.any fun
        | .token .punct text _ _ => ["==", "<=", "!=", ">=", "<", ">"].contains text
        | _ => false
  | _ => false

def isBraceMacro : SyntaxTree → Bool
  | tree@(.node .macroExpr _) => tree.endsWithBrace
  | _ => false

end SyntaxTree

namespace Reader

/-! ## Blocks and control flow -/

def block (nested : Nested) : Reader SyntaxTree :=
  groupOf .brace (blockBody nested)

def plainBlock (nested : Nested) : Reader SyntaxTree :=
  groupOf .brace do return (← nested .statements).children

def conditional (nested : Nested) : Reader SyntaxTree := do
  return .node .blockLikeExpr (← loop ((← ahead).length + 1) [])
where
  loop : Nat → List SyntaxTree → Reader (List SyntaxTree)
    | 0, done => return done
    | fuel + 1, done => do
        let word ← keyword "if"
        let condition ← nested (.expr false)
        let branch ← plainBlock nested
        let done := done ++ [word, condition, branch]
        if ← peek (Ahead.word "else") then
          let otherwise ← keyword "else"
          if ← peek (Ahead.word "if") then loop fuel (done ++ [otherwise])
          else if ← peek (Ahead.group .brace) then
            return done ++ [otherwise, ← plainBlock nested]
          else expected ["`if`", "curly braces"]
        else return done

def whileLoop (nested : Nested) : Reader SyntaxTree := do
  let word ← keyword "while"
  let condition ← nested (.expr false)
  return .node .blockLikeExpr [word, condition, ← block nested]

def forLoop (nested : Nested) : Reader SyntaxTree := do
  let word ← keyword "for"
  let target ← nested .alternatives
  let within ← keyword "in"
  let source ← nested (.expr false)
  return .node .blockLikeExpr [word, target, within, source, ← block nested]

def wordBlock (nested : Nested) (text : String) : Reader SyntaxTree := do
  let word ← keyword text
  return .node .blockLikeExpr [word, ← block nested]

def arm (nested : Nested) : Reader SyntaxTree := do
  let attributes ← outerAttributes nested
  let target ← nested .alternatives
  let guard ←
    if ← peek (Ahead.word "if") then
      let word ← keyword "if"
      pure [word, ← nested (.expr true)]
    else pure []
  let arrow ← punct "=>"
  let body ← nested .boundary
  let comma ←
    if !body.hasKind .blockLikeExpr && !(← isEmpty) then pure [← punct ","] else punct? ","
  return .node .otherExpr (attributes ++ [target] ++ guard ++ [arrow, body] ++ comma)

def matchExpr (nested : Nested) : Reader SyntaxTree := do
  let word ← keyword "match"
  let subject ← nested (.expr false)
  let arms ← groupOf .brace do
    let attributes ← innerAttributes nested
    return attributes ++ (← manyUntil isEmpty (arm nested))
  return .node .blockLikeExpr [word, subject, arms]

def labelled (nested : Nested) : Reader SyntaxTree := do
  let name ← lifetime
  let colon ← punct ":"
  let body ←
    if ← peek (Ahead.word "while") then whileLoop nested
    else if ← peek (Ahead.word "for") then forLoop nested
    else if ← peek (Ahead.word "loop") then wordBlock nested "loop"
    else if ← peek (Ahead.group .brace) then
      pure (.node .blockLikeExpr [← block nested])
    else refuse .labelWithoutLoop
  return body.withAttributes [name, colon]

/-! ## Atoms -/

def closureParameter (nested : Nested) : Reader SyntaxTree := do
  let attributes ← outerAttributes nested
  let target ← nested .pattern
  if ← peek (Ahead.punct ":") then
    let colon ← punct ":"
    return .node .otherPattern (attributes ++ [target, colon, ← nested (.type true)])
  else return target.withAttributes attributes

def closure (nested : Nested) (braces : Bool) : Reader SyntaxTree := do
  let bound ← binder (nested .parameter)
  let marks := (← keyword? "const") ++ (← keyword? "static") ++ (← keyword? "async") ++
    (← keyword? "move")
  let opened ← punct "|"
  let parameters ← separated (peek (Ahead.punct "|")) (closureParameter nested) (punct ",")
  let closed ← punct "|"
  let head := bound ++ marks ++ [opened] ++ parameters ++ [closed]
  if ← peek (Ahead.punct "->") then
    let output ← returnType nested true
    return .node .otherExpr
      (head ++ output ++ [.node .blockLikeExpr [← plainBlock nested]])
  else return .node .otherExpr (head ++ [← nested (.expr braces)])

def fieldValue (nested : Nested) : Reader SyntaxTree := do
  let attributes ← outerAttributes nested
  let target ← member
  if (← peek (Ahead.punct ":")) || isIndex target then
    let colon ← punct ":"
    return .node .otherExpr (attributes ++ [target, colon, ← nested (.expr true)])
  else return .node .otherExpr (attributes ++ [target])

/-- Reads the fields of a struct expression; two dots name what gives the rest. -/
def fieldValues (nested : Nested) : Reader (List SyntaxTree) := do
  loop ((← ahead).length + 1) []
where
  loop : Nat → List SyntaxTree → Reader (List SyntaxTree)
    | 0, done => return done
    | fuel + 1, done => do
        if ← isEmpty then return done
        else if ← peek (Ahead.punct "..") then
          let dots ← punct ".."
          if ← isEmpty then return done ++ [dots]
          else return done ++ [dots, ← nested (.expr true)]
        else
          let tree ← fieldValue nested
          if ← isEmpty then return done ++ [tree]
          else loop fuel (done ++ [tree, ← punct ","])

/-- Reads an expression that a path begins: the path, a macro call or a struct. -/
def pathAtom (nested : Nested) (braces : Bool) : Reader SyntaxTree := do
  let target ← exprPath nested
  let macroPath :=
    match target with
    | .node .pathExpr [path] => if isPlainPath path then [path] else []
    | _ => []
  if !macroPath.isEmpty && (← peek (Ahead.punct "!")) && !(← peek (Ahead.punct "!=")) then
    let bang ← punct "!"
    return .node .macroExpr (macroPath ++ [bang, ← rawGroup])
  else if braces && (← peek (Ahead.group .brace)) then
    return .node .structExpr [target, ← groupOf .brace (fieldValues nested)]
  else return target

def parenthesizedExpr (nested : Nested) : Reader SyntaxTree := do
  let (parts, openLine, closeLine) ← group .parenthesis (commaList (nested (.expr true)))
  let kind : NodeKind := if parts.length == 1 then .parenExpr else .otherExpr
  return .node kind [.group .parenthesis parts openLine closeLine]

def arrayExpr (nested : Nested) : Reader SyntaxTree := do
  let element := nested (.expr true)
  let parts ← groupOf .bracket do
    if ← isEmpty then return []
    else
      let first ← element
      if (← isEmpty) then return [first]
      else if ← peek (Ahead.punct ",") then
        let comma ← punct ","
        return [first, comma] ++ (← commaList element)
      else if ← peek (Ahead.punct ";") then
        let semicolon ← punct ";"
        return [first, semicolon, ← element]
      else expected ["`,`", "`;`"]
  return .node .otherExpr [parts]

def breakExpr (nested : Nested) (braces : Bool) : Reader SyntaxTree := do
  let word ← keyword "break"
  if (← peek Ahead.lifetime) && (← peek (Ahead.second (Ahead.punct ":"))) then
    let line ← lineAhead
    let _ ← nested (.expr true)
    refuseAt line .labelledBreakValue
  else
    let label ← if ← peek Ahead.lifetime then pure [← lifetime] else pure []
    if (← peek Ahead.expr) && (braces || !(← peek (Ahead.group .brace))) then
      return .node .otherExpr ([word] ++ label ++ [← nested (.expr braces)])
    else return .node .otherExpr ([word] ++ label)

def wordValue (nested : Nested) (text : String) : Reader SyntaxTree := do
  let word ← keyword text
  if ← peek Ahead.expr then return .node .otherExpr [word, ← nested (.expr true)]
  else return .node .otherExpr [word]

/-- Reads a tail call; it is kept as its tokens. -/
def becomeExpr (nested : Nested) : Reader SyntaxTree := do
  let start ← ahead
  let _ ← keyword "become"
  let _ ← nested (.expr true)
  return .node .verbatim (← since start)

/-- Reads a construct of the language's own library; it is kept as its tokens. -/
def builtinExpr : Reader SyntaxTree := do
  let start ← ahead
  let _ ← keyword "builtin"
  let _ ← punct "#"
  let _ ← name
  let _ ← groupOf .parenthesis allTokens
  return .node .verbatim (← since start)

/-! ## Operators -/

def checkCast : Reader Unit := do
  let found ← ahead
  if Ahead.punct "." found && !Ahead.punct ".." found then
    if Ahead.second (Ahead.word "await") found then refuse (.castTail .await)
    else if Ahead.second Ahead.name found &&
        (Ahead.third (Ahead.group .parenthesis) found || Ahead.third (Ahead.punct "::") found) then
      refuse (.castTail .methodCall)
    else refuse (.castTail .fieldAccess)
  else if Ahead.punct "?" found then refuse (.castTail .tryOperator)
  else if Ahead.group .bracket found then refuse (.castTail .indexing)
  else if Ahead.group .parenthesis found then refuse (.castTail .call)
  else return ()

mutual

/-- Reads the operators that follow an operand and bind at least as tightly as `base`. Each round
consumes an operator, and so does each level. -/
def climb (nested : Nested) (braces : Bool) : Nat → SyntaxTree → Precedence → Reader SyntaxTree
  | 0, left, _ => return left
  | fuel + 1, left, base => do
      let found ← ahead
      if left.hasKind .rangeExpr then return left
      else
        match Ahead.operator? found with
        | some (text, precedence) =>
            if precedence.rank < base.rank then return left
            else if precedence == .compare && left.isComparison then refuse .comparisonChain
            else
              let operator ← punct text
              let right ← operand nested braces fuel precedence
              climb nested braces fuel (.node .binaryExpr [left, operator, right]) base
        | none =>
            if base.rank ≤ Precedence.assign.rank && Ahead.punct "=" found &&
                !Ahead.punct "=>" found then
              let equals ← punct "="
              let right ← operand nested braces fuel .assign
              climb nested braces fuel (.node .otherExpr [left, equals, right]) base
            else if base.rank ≤ Precedence.range.rank && Ahead.punct ".." found then
              let sign ← rangeSign false
              let upper ← rangeUpper nested braces fuel sign
              climb nested braces fuel (.node .rangeExpr ([left, sign] ++ upper)) base
            else if base.rank ≤ Precedence.cast.rank && Ahead.word "as" found then
              let word ← keyword "as"
              let target ← nested (.type false)
              checkCast
              climb nested braces fuel (.node .otherExpr [left, word, target]) base
            else return left

def operand (nested : Nested) (braces : Bool) : Nat → Precedence → Reader SyntaxTree
  | 0, _ => nested (.unary braces)
  | fuel + 1, precedence => do
      tighten nested braces fuel (← nested (.unary braces)) precedence

/-- Takes in operators that bind more tightly than the one on the left. -/
def tighten (nested : Nested) (braces : Bool) : Nat → SyntaxTree → Precedence → Reader SyntaxTree
  | 0, right, _ => return right
  | fuel + 1, right, precedence => do
      let before ← ahead
      let next := Ahead.precedence before
      if precedence.rank < next.rank || (next == precedence && precedence == .assign) then
        let right ← climb nested braces fuel right next
        if (← ahead).length == before.length then return right
        else tighten nested braces fuel right precedence
      else return right

/-- Reads the upper bound of a range; a half open range may lack it. -/
def rangeUpper (nested : Nested) (braces : Bool) : Nat → SyntaxTree → Reader (List SyntaxTree)
  | 0, _ => return []
  | fuel + 1, sign => do
      if !isClosed sign && (← peek (Ahead.rangeEnds braces)) then return []
      else return [← operand nested braces fuel .range]

end

def climbFuel : Reader Nat := do
  return 4 * (← ahead).length + 8

def rangeAtom (nested : Nested) (braces : Bool) : Reader SyntaxTree := do
  let sign ← rangeSign false
  return .node .rangeExpr (sign :: (← rangeUpper nested braces (← climbFuel) sign))

def letExpr (nested : Nested) (braces : Bool) : Reader SyntaxTree := do
  let word ← keyword "let"
  let target ← nested .alternatives
  let equals ← punct "="
  let subject ← nested (.unary braces)
  let subject ← climb nested braces (← climbFuel) subject .compare
  return .node .otherExpr [word, target, equals, subject]

def atom (nested : Nested) (braces : Bool) : Reader SyntaxTree := do
  let found ← ahead
  let word (text : String) : Bool := Ahead.word text found
  let next (test : List SyntaxTree → Bool) : Bool := Ahead.second test found
  if Ahead.literal found then literal
  else if word "async" && (next (Ahead.group .brace) ||
      (next (Ahead.word "move") && Ahead.third (Ahead.group .brace) found)) then
    let marks := [← keyword "async"] ++ (← keyword? "move")
    return .node .otherExpr (marks ++ [← plainBlock nested])
  else if word "try" && next (Ahead.group .brace) then
    let mark ← keyword "try"
    return .node .blockLikeExpr [mark, ← plainBlock nested]
  else if Ahead.closure found then closure nested braces
  else if word "builtin" && next (Ahead.punct "#") then builtinExpr
  else if Ahead.name found || Ahead.punct "::" found || Ahead.punct "<" found ||
      Ahead.pathWord found ||
      (word "try" && (next (Ahead.punct "!") || next (Ahead.punct "::"))) then
    pathAtom nested braces
  else if Ahead.group .parenthesis found then parenthesizedExpr nested
  else if word "break" then breakExpr nested braces
  else if word "continue" then
    let mark ← keyword "continue"
    return .node .otherExpr
      (mark :: (← if ← peek Ahead.lifetime then pure [← lifetime] else pure []))
  else if word "return" then wordValue nested "return"
  else if word "become" then becomeExpr nested
  else if Ahead.group .bracket found then arrayExpr nested
  else if word "let" then letExpr nested braces
  else if word "if" then conditional nested
  else if word "while" then whileLoop nested
  else if word "for" then forLoop nested
  else if word "loop" then wordBlock nested "loop"
  else if word "match" then matchExpr nested
  else if word "yield" then wordValue nested "yield"
  else if word "unsafe" then wordBlock nested "unsafe"
  else if word "const" then wordBlock nested "const"
  else if Ahead.group .brace found then return .node .blockLikeExpr [← block nested]
  else if Ahead.punct ".." found then rangeAtom nested braces
  else if word "_" then return .node .otherExpr [← anyWord]
  else if Ahead.lifetime found then labelled nested
  else expected ["an expression"]

/-- The fields that a number with a point names after a dot, and whether a further one is due. -/
def indexChain (base dot : SyntaxTree) (text : String) (line : Nat) :
    Reader (SyntaxTree × Bool) := do
  let parts := text.splitOn "."
  let goesOn := parts.getLast? == some ""
  let parts := if goesOn then parts.dropLast else parts
  let mut tree := base
  for part in parts do
    match lexIndex? part with
    | some found =>
        let field ← index found line
        tree := .node .otherExpr [tree, dot, field]
    | none => refuseAt line .memberExpected
  return (tree, goesOn)
where
  lexIndex? (part : String) : Option String :=
    if part.toList.head?.any Char.isDigit then some part else none

def memberTrailer (nested : Nested) (base dot : SyntaxTree) : Reader SyntaxTree := do
  if ← peek (Ahead.word "await") then
    return .node .otherExpr [base, dot, ← keyword "await"]
  else
    let target ← member
    let turbofish ←
      if !isIndex target && (← peek (Ahead.punct "::")) then
        let separator ← punct "::"
        pure [← angleArguments nested [separator]]
      else pure []
    if !turbofish.isEmpty || (!isIndex target && (← peek (Ahead.group .parenthesis))) then
      let arguments ← groupOf .parenthesis (commaList (nested (.expr true)))
      return .node .methodCallExpr
        ([base, dot, .node .name [target]] ++ turbofish ++ [arguments])
    else return .node .otherExpr [base, dot, target]

def trailers (nested : Nested) (base : SyntaxTree) : Reader SyntaxTree := do
  loop (2 * (← ahead).length + 2) base
where
  loop : Nat → SyntaxTree → Reader SyntaxTree
    | 0, base => return base
    | fuel + 1, base => do
        let found ← ahead
        let isRange := base.hasKind .rangeExpr
        if Ahead.group .parenthesis found then
          let arguments ← groupOf .parenthesis (commaList (nested (.expr true)))
          loop fuel (.node .callExpr [base, arguments])
        else if Ahead.punct "." found && !Ahead.punct ".." found && !isRange then
          let dot ← punct "."
          match ← ahead with
          | .token .literal text line _ :: rest =>
              if literalClass text == .float then
                modify fun state => { state with rest }
                let (tree, goesOn) ← indexChain base dot text line
                if goesOn then loop fuel (← memberTrailer nested tree dot)
                else loop fuel tree
              else loop fuel (← memberTrailer nested base dot)
          | _ => loop fuel (← memberTrailer nested base dot)
        else if Ahead.group .bracket found then
          let position ← groupOf .bracket do return [← nested (.expr true)]
          loop fuel (.node .otherExpr [base, position])
        else if Ahead.punct "?" found && !isRange then
          loop fuel (.node .otherExpr [base, ← punct "?"])
        else return base

def unary (nested : Nested) (braces : Bool) : Reader SyntaxTree := do
  let start ← ahead
  let attributes ← outerAttributes nested
  let found ← ahead
  if Ahead.punct "&" found then
    let sign ← punct "&"
    let raw ←
      if (← peek (Ahead.word "raw")) && ((← peek (Ahead.second (Ahead.word "mut"))) ||
          (← peek (Ahead.second (Ahead.word "const")))) then pure [← anyWord]
      else pure []
    let mutability ← keyword? "mut"
    let constness ←
      if !raw.isEmpty && mutability.isEmpty then pure [← keyword "const"] else pure []
    return .node .otherExpr
      (attributes ++ [sign] ++ raw ++ mutability ++ constness ++ [← nested (.unary braces)])
  else if Ahead.punct "*" found || Ahead.punct "!" found || Ahead.punct "-" found then
    let sign ←
      if Ahead.punct "*" found then punct "*"
      else if Ahead.punct "!" found then punct "!"
      else punct "-"
    return .node .unaryExpr (attributes ++ [sign, ← nested (.unary braces)])
  else
    let line ← lineAhead
    let tree ← trailers nested (← atom nested braces)
    if tree.hasKind .verbatim then return .node .verbatim (← since start)
    else if attributes.isEmpty then return tree
    else if tree.hasKind .rangeExpr then refuseAt line .attributeOnRange
    else return tree.withAttributes attributes

def expr (nested : Nested) (braces : Bool) : Reader SyntaxTree := do
  let left ← nested (.unary braces)
  climb nested braces (← climbFuel) left .lowest

/-- Reads an expression that ends early: a block or a loop at its head takes no operator. -/
def boundary (nested : Nested) : Reader SyntaxTree := do
  let attributes ← outerAttributes nested
  let found ← ahead
  let head ←
    if Ahead.word "if" found then conditional nested
    else if Ahead.word "while" found then whileLoop nested
    else if Ahead.word "for" found && !Ahead.closureBinder found then forLoop nested
    else if Ahead.word "loop" found then wordBlock nested "loop"
    else if Ahead.word "match" found then matchExpr nested
    else if Ahead.word "try" found && Ahead.second (Ahead.group .brace) found then
      let mark ← keyword "try"
      pure (.node .blockLikeExpr [mark, ← plainBlock nested])
    else if Ahead.word "unsafe" found then wordBlock nested "unsafe"
    else if Ahead.word "const" found && Ahead.second (Ahead.group .brace) found then
      wordBlock nested "const"
    else if Ahead.group .brace found then pure (.node .blockLikeExpr [← block nested])
    else if Ahead.lifetime found then labelled nested
    else nested (.unary true)
  if !head.hasKind .blockLikeExpr then
    climb nested true (← climbFuel) (head.withAttributes attributes) .lowest
  else
    let found ← ahead
    if (Ahead.punct "." found && !Ahead.punct ".." found) || Ahead.punct "?" found then
      let tree ← trailers nested head
      climb nested true (← climbFuel) (tree.withAttributes attributes) .lowest
    else return head.withAttributes attributes

end Reader

end Wiring.Grammar
