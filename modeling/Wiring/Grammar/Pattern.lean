import Wiring.Grammar.Type
import Wiring.Grammar.Whole

/-!
Patterns.
-/

set_option autoImplicit false

namespace Wiring.Grammar

namespace Reader

/-! ## Parts shared with expressions -/

/-- Reads the sign of a range: half open, or closed in its present or its older spelling. -/
def rangeSign (older : Bool) : Reader SyntaxTree := do
  if ← peek (Ahead.punct "..=") then punct "..="
  else if ← peek (Ahead.punct "...") then
    if older then punct "..." else expected ["`..=`"]
  else if ← peek (Ahead.punct "..") then punct ".."
  else expected ["`..`", "`..=`"]

def isClosed (sign : SyntaxTree) : Bool :=
  sign.text? != some ".."

/-- The index that a literal names: it has no suffix and fits in thirty-two bits. -/
def index (text : String) (line : Nat) : Reader SyntaxTree := do
  match integerLiteral? text with
  | some ⟨value, ""⟩ =>
      if value < Nat.pow 2 32 then
        return .token .literal (toString value) line (isWhole_toString value)
      else refuseAt line .numberTooLarge
  | some _ => refuseAt line .indexSuffix
  | none => refuseAt line (.expected ["integer literal"])

/-- Reads what a field is called: a name or an index. -/
def member : Reader SyntaxTree := do
  match ← ahead with
  | .token .literal text line _ :: rest =>
      if literalClass text == .integer then
        let found ← index text line
        modify fun state => { state with rest }
        return found
      else refuse .memberExpected
  | found => if Ahead.name found then name else refuse .memberExpected

def isIndex : SyntaxTree → Bool
  | .token .literal _ _ _ => true
  | _ => false

def blockBody (nested : Nested) : Reader (List SyntaxTree) := do
  let attributes ← innerAttributes nested
  return attributes ++ (← nested .statements).children

def constExpr (nested : Nested) : Reader SyntaxTree := do
  let word ← keyword "const"
  return .node .blockLikeExpr [word, ← groupOf .brace (blockBody nested)]

def exprPath (nested : Nested) : Reader SyntaxTree :=
  qualifiedPath nested true .pathExpr .qualifiedExpr

/-! ## Ranges of values -/

/-- Reads the bound of a range in a pattern; at the end of a pattern there is none. -/
def rangeBound (nested : Nested) : Reader (List SyntaxTree) := do
  let found ← ahead
  if found.isEmpty || Ahead.punct "|" found || Ahead.punct "=" found ||
      (Ahead.punct ":" found && !Ahead.punct "::" found) || Ahead.punct "," found ||
      Ahead.punct ";" found || Ahead.word "if" found then return []
  else if Ahead.literal found then return [← literal]
  else if Ahead.name found || Ahead.punct "::" found || Ahead.punct "<" found ||
      Ahead.pathWord found then return [← exprPath nested]
  else if Ahead.word "const" found then return [← constExpr nested]
  else expected ["literal", "identifier", "`::`", "`<`", "`self`", "`Self`", "`super`", "`crate`",
    "`const`"]

def rangeEnd (nested : Nested) (older : Bool) : Reader (SyntaxTree × List SyntaxTree) := do
  let sign ← rangeSign older
  let upper ← rangeBound nested
  if isClosed sign && upper.isEmpty then refuse .rangeBoundMissing
  else return (sign, upper)

def rangeFrom (nested : Nested) (lower : SyntaxTree) : Reader SyntaxTree := do
  let (sign, upper) ← rangeEnd nested true
  let kind : NodeKind := if upper.isEmpty then .openRangePattern else .otherPattern
  return .node kind (lower :: sign :: upper)

def rangeTo (nested : Nested) : Reader SyntaxTree := do
  let (sign, upper) ← rangeEnd nested false
  let kind : NodeKind := if upper.isEmpty then .restPattern else .openRangePattern
  return .node kind (sign :: upper)

def valuePattern (nested : Nested) : Reader SyntaxTree := do
  let lower ←
    if ← peek (Ahead.word "const") then constExpr nested
    else if ← peek Ahead.literal then literal
    else expected ["literal", "identifier", "`::`", "`<`", "`self`", "`Self`", "`super`",
      "`crate`", "`const`"]
  if ← peek (Ahead.punct "..") then rangeFrom nested lower
  else return .node .otherPattern [lower]

/-! ## Compound patterns -/

def fieldPattern (nested : Nested) : Reader SyntaxTree := do
  let start ← ahead
  let boxed ← keyword? "box"
  let marks := (← keyword? "ref") ++ (← keyword? "mut")
  let isPlain := boxed.isEmpty && marks.isEmpty
  let target ← if isPlain then member else name
  if (isPlain && (← peek (Ahead.punct ":"))) || isIndex target then
    let colon ← punct ":"
    return .node .otherPattern [target, colon, ← nested .alternatives]
  else if boxed.isEmpty then
    return .node .identPattern (marks ++ [.node .name [target]])
  else return .node .verbatim (← since start)

/-- Reads the fields of a struct pattern; two dots end them. -/
def fieldPatterns (nested : Nested) : Reader (List SyntaxTree) := do
  loop ((← ahead).length + 1) []
where
  loop : Nat → List SyntaxTree → Reader (List SyntaxTree)
    | 0, done => return done
    | fuel + 1, done => do
        if ← isEmpty then return done
        else
          let attributes ← outerAttributes nested
          if ← peek (Ahead.punct "..") then
            return done ++ attributes ++ [← punct ".."]
          else
            let tree := (← fieldPattern nested).withAttributes attributes
            if ← isEmpty then return done ++ [tree]
            else loop fuel (done ++ [tree, ← punct ","])

def pathPattern (nested : Nested) : Reader SyntaxTree := do
  let target ← exprPath nested
  let isMacro :=
    match target with
    | .node .pathExpr [path] => isPlainPath path
    | _ => false
  if isMacro && (← peek (Ahead.punct "!")) && !(← peek (Ahead.punct "!=")) then
    let bang ← punct "!"
    return .node .otherPattern [target, bang, ← rawGroup]
  else if ← peek (Ahead.group .brace) then
    return .node .otherPattern [target, ← groupOf .brace (fieldPatterns nested)]
  else if ← peek (Ahead.group .parenthesis) then
    return .node .otherPattern
      [target, ← groupOf .parenthesis (commaList (nested .alternatives))]
  else if ← peek (Ahead.punct "..") then rangeFrom nested target
  else return .node .otherPattern [target]

def identPattern (nested : Nested) : Reader SyntaxTree := do
  let marks := (← keyword? "ref") ++ (← keyword? "mut")
  let ident ← if ← peek (Ahead.word "self") then anyWord else name
  let inner ←
    if ← peek (Ahead.punct "@") then
      let sign ← punct "@"
      pure [sign, ← nested .pattern]
    else pure []
  return .node .identPattern (marks ++ [.node .name [ident]] ++ inner)

/-- Reads a boxed pattern; it is kept as its tokens. -/
def boxPattern (nested : Nested) : Reader SyntaxTree := do
  let start ← ahead
  let _ ← keyword "box"
  let _ ← nested .pattern
  return .node .verbatim (← since start)

def referencePattern (nested : Nested) : Reader SyntaxTree := do
  let sign ← punct "&"
  let mutability ← keyword? "mut"
  return .node .otherPattern ([sign] ++ mutability ++ [← nested .pattern])

def sliceElement (nested : Nested) : Reader SyntaxTree := do
  let line ← lineAhead
  let element ← nested .alternatives
  if element.hasKind .openRangePattern then refuseAt line .rangeInSlicePattern
  else return element

def patternStarts : List String := [
  "identifier", "`::`", "`<`", "`_`", "literal", "`const`", "`ref`", "`mut`", "`&`",
  "parentheses", "square brackets", "`..`", "`const`"]

def pathPatternAhead (ahead : List SyntaxTree) : Bool :=
  let rest := ahead.drop 1
  (Ahead.name ahead && (Ahead.punct "::" rest || Ahead.punct "!" rest || Ahead.group .brace rest ||
    Ahead.group .parenthesis rest || Ahead.punct ".." rest)) ||
  (Ahead.word "self" ahead && Ahead.punct "::" rest) || Ahead.punct "::" ahead ||
  Ahead.punct "<" ahead || Ahead.word "Self" ahead || Ahead.word "super" ahead ||
  Ahead.word "crate" ahead

def pattern (nested : Nested) : Reader SyntaxTree := do
  let found ← ahead
  if pathPatternAhead found then pathPattern nested
  else if Ahead.word "_" found then return .node .otherPattern [← anyWord]
  else if Ahead.word "box" found then boxPattern nested
  else if Ahead.punct "-" found || Ahead.literal found || Ahead.word "const" found then
    valuePattern nested
  else if Ahead.word "ref" found || Ahead.word "mut" found || Ahead.word "self" found ||
      Ahead.name found then identPattern nested
  else if Ahead.punct "&" found then referencePattern nested
  else if Ahead.group .parenthesis found then
    return .node .otherPattern [← groupOf .parenthesis (commaList (nested .alternatives))]
  else if Ahead.group .bracket found then
    return .node .otherPattern [← groupOf .bracket (commaList (sliceElement nested))]
  else if Ahead.punct "..." found then
    expected (patternStarts.filter (· != "`..`"))
  else if Ahead.punct ".." found then rangeTo nested
  else expected patternStarts

def barAhead (found : List SyntaxTree) : Bool :=
  Ahead.punct "|" found && !Ahead.punct "||" found && !Ahead.punct "|=" found

def furtherAlternatives (nested : Nested) : Reader (List SyntaxTree) := do
  loop ((← ahead).length + 1) []
where
  loop : Nat → List SyntaxTree → Reader (List SyntaxTree)
    | 0, done => return done
    | fuel + 1, done => do
        if ← peek barAhead then
          let bar ← punct "|"
          loop fuel (done ++ [bar, ← nested .pattern])
        else return done

/-- Reads a pattern with alternatives; a bar may stand in front of the first. -/
def alternatives (nested : Nested) : Reader SyntaxTree := do
  let bar ← punct? "|"
  let first ← nested .pattern
  let more ← furtherAlternatives nested
  if bar.isEmpty && more.isEmpty then return first
  else return .node .otherPattern (bar ++ [first] ++ more)

end Reader

end Wiring.Grammar
