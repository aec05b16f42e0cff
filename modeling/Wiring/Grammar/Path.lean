import Wiring.Grammar.Reader

/-!
Paths, their generic arguments, and attributes. A production takes the readers of the
nonterminals that it nests as its first argument.
-/

set_option autoImplicit false

namespace Wiring.Grammar

/-- What may stand in a bound besides a trait or a lifetime. -/
structure BoundRules where
  captures : Bool
  constants : Bool

inductive Nonterminal where
  /-- A type; `plus` says whether bounds may follow a leading one. -/
  | type (plus : Bool)
  | bound (rules : BoundRules)
  /-- A parameter that a `for` binds or a generic list declares. -/
  | parameter
  /-- An expression; `braces` says whether a path may begin a struct expression. -/
  | expr (braces : Bool)
  | unary (braces : Bool)
  | boundary
  | pattern
  | alternatives
  | statements
  | item
  /-- What a use item imports; `roots` says whether an entry may begin at a crate root. -/
  | useTree (roots : Bool)

abbrev Nested := Nonterminal → Reader SyntaxTree

def pathWords : List String :=
  ["super", "self", "crate", "try"]

def Ahead.pathWord (ahead : List SyntaxTree) : Bool :=
  Ahead.word "super" ahead || Ahead.word "self" ahead || Ahead.word "Self" ahead ||
    Ahead.word "crate" ahead

namespace Reader

def constBlock (nested : Nested) : Reader SyntaxTree := do
  let block ← groupOf .brace do return (← nested .statements).children
  return .node .blockLikeExpr [block]

def constArgument (nested : Nested) : Reader SyntaxTree := do
  if ← peek Ahead.literal then literal
  else if ← peek Ahead.name then
    return .node .pathExpr [.node .path [.node .segment [← name]]]
  else if ← peek (Ahead.group .brace) then constBlock nested
  else expected []

def bindingTarget? : SyntaxTree → Option (List SyntaxTree)
  | .node .pathType [.node .path [.node .segment parts]] =>
      if parts.any (SyntaxTree.hasKind .parenthesizedArguments) then none else some parts
  | _ => none

def bindingBounds (nested : Nested) : Reader (List SyntaxTree) :=
  chained (do return (← peek (Ahead.punct ",")) || (← peek (Ahead.punct ">")))
    (nested (.bound ⟨false, true⟩)) (peek (Ahead.punct "+")) (punct "+")

def genericArgument (nested : Nested) : Reader SyntaxTree := do
  if (← peek Ahead.lifetime) && !(← peek (Ahead.second (Ahead.punct "+"))) then
    return .node .lifetimeArgument [← lifetime]
  else if (← peek Ahead.literal) || (← peek (Ahead.group .brace)) then
    return .node .constArgument [← constArgument nested]
  else
    let type ← nested (.type true)
    match bindingTarget? type with
    | none => return .node .typeArgument [type]
    | some target =>
        if ← peek (Ahead.punct "=") then
          let equals ← punct "="
          if (← peek Ahead.literal) || (← peek (Ahead.group .brace)) then
            return .node .bindingArgument (target ++ [equals, ← constArgument nested])
          else
            return .node .bindingArgument (target ++ [equals, ← nested (.type true)])
        else if ← peek (Ahead.punct ":") then
          let colon ← punct ":"
          return .node .bindingArgument (target ++ [colon] ++ (← bindingBounds nested))
        else return .node .typeArgument [type]

def angleArguments (nested : Nested) (separator : List SyntaxTree) : Reader SyntaxTree := do
  let opened ← punct "<"
  let arguments ← separated (peek (Ahead.punct ">")) (genericArgument nested) (punct ",")
  return .node .genericArguments (separator ++ [opened] ++ arguments ++ [← punct ">"])

/-- Reads one segment of a path. In an expression generic arguments need a separator. -/
def segment (nested : Nested) (inExpr : Bool) : Reader SyntaxTree := do
  if ← peek fun ahead => pathWords.any fun word => Ahead.word word ahead then
    return .node .segment [← anyWord]
  else
    let ident ← if ← peek (Ahead.word "Self") then anyWord else name
    if !inExpr && (← peek (Ahead.punct "<")) && !(← peek (Ahead.punct "<=")) then
      return .node .segment [ident, ← angleArguments nested []]
    else if (← peek (Ahead.punct "::")) && (← peek (Ahead.third (Ahead.punct "<"))) then
      let separator ← punct "::"
      return .node .segment [ident, ← angleArguments nested [separator]]
    else return .node .segment [ident]

def segments (nested : Nested) (inExpr : Bool) : Reader (List SyntaxTree) := do
  loop ((← ahead).length + 1) []
where
  loop : Nat → List SyntaxTree → Reader (List SyntaxTree)
    | 0, done => return done.reverse
    | fuel + 1, done => do
        if (← peek (Ahead.punct "::")) &&
            !(← peek (Ahead.third (Ahead.group .parenthesis))) then
          let separator ← punct "::"
          loop fuel ((← segment nested inExpr) :: separator :: done)
        else return done.reverse

def path (nested : Nested) (inExpr : Bool) : Reader SyntaxTree := do
  let root ← punct? "::"
  let first ← segment nested inExpr
  return .node .path (root ++ [first] ++ (← segments nested inExpr))

def qualifiedRest (nested : Nested) (inExpr : Bool) : Reader (List SyntaxTree) := do
  let first ← segment nested inExpr
  loop ((← ahead).length + 1) [first]
where
  loop : Nat → List SyntaxTree → Reader (List SyntaxTree)
    | 0, done => return done.reverse
    | fuel + 1, done => do
        if ← peek (Ahead.punct "::") then
          let separator ← punct "::"
          loop fuel ((← segment nested inExpr) :: separator :: done)
        else return done.reverse

/-- Reads a path that may be qualified by a self type: the kind says which. -/
def qualifiedPath (nested : Nested) (inExpr : Bool) (plain qualified : NodeKind) :
    Reader SyntaxTree := do
  if ← peek (Ahead.punct "<") then
    let opened ← punct "<"
    let self ← nested (.type true)
    let cast ←
      if ← peek (Ahead.word "as") then
        let word ← keyword "as"
        pure [word, ← path nested false]
      else pure []
    let closed ← punct ">"
    let separator ← punct "::"
    let rest ← qualifiedRest nested inExpr
    return .node qualified ([opened, self] ++ cast ++ [closed, separator] ++ rest)
  else return .node plain [← path nested inExpr]

def plainPath : Reader SyntaxTree := do
  let root ← punct? "::"
  let start ← ahead
  let parts ← loop (start.length + 1) []
  if parts.isEmpty then
    let _ ← name
    expected ["path segment"]
  else if parts.getLast?.any fun part => !part.hasKind .segment then
    expected ["path segment after `::`"]
  else return .node .path (root ++ parts)
where
  loop : Nat → List SyntaxTree → Reader (List SyntaxTree)
    | 0, done => return done.reverse
    | fuel + 1, done => do
        if (← peek Ahead.name) || (← peek Ahead.pathWord) then
          let part := .node .segment [← anyWord]
          if ← peek (Ahead.punct "::") then loop fuel ((← punct "::") :: part :: done)
          else return (part :: done).reverse
        else return done.reverse

/-! ## Attributes -/

def rawGroup : Reader SyntaxTree := do
  match ← ahead with
  | tree@(.group _ _ _ _) :: rest =>
      modify fun state => { state with rest }
      return tree
  | _ => expected ["delimiter"]

/-- Reads the value of an attribute. A lone literal is taken as it stands. -/
def attributeValue (nested : Nested) : Reader SyntaxTree := do
  let alone ← attempt do
    let value ← literal
    if ← isEmpty then return value else expected ["literal"]
  match alone with
  | some value => return value
  | none =>
      if (← peek (Ahead.punct "#")) && (← peek (Ahead.second (Ahead.group .bracket))) then
        refuse .attributeInAttribute
      else nested (.expr true)

/-- Reads the inside of an attribute: a path, alone, with arguments or with a value. -/
def attributeMeta (nested : Nested) : Reader SyntaxTree := do
  let path ←
    if ← peek (Ahead.word "unsafe") then
      pure (.node .path [.node .segment [← anyWord]])
    else plainPath
  match ← ahead with
  | .group _ _ _ _ :: _ => return .node .metaList [path, ← rawGroup]
  | _ =>
      if ← peek (Ahead.punct "=") then
        let equals ← punct "="
        return .node .metaValue [path, equals, ← attributeValue nested]
      else return .node .metaPath [path]

/-- Reads one attribute; an inner one has an exclamation mark. -/
def attributeItem (nested : Nested) (inner : Bool) : Reader SyntaxTree := do
  let sign ← punct "#"
  let bang ← if inner then pure [← punct "!"] else pure []
  let body ← groupOf .bracket do return [← attributeMeta nested]
  return .node .attribute ([sign] ++ bang ++ [body])

def outerAttributes (nested : Nested) : Reader (List SyntaxTree) :=
  manyUntil (do return !(← peek (Ahead.punct "#"))) (attributeItem nested false)

def innerAttributes (nested : Nested) : Reader (List SyntaxTree) :=
  manyUntil
    (do return !((← peek (Ahead.punct "#")) && (← peek (Ahead.second (Ahead.punct "!")))))
    (attributeItem nested true)

/-! ## Visibility -/

/-- Reads a visibility; it may be absent. -/
def visibility : Reader (List SyntaxTree) := do
  if ← peek (Ahead.word "pub") then
    let word ← keyword "pub"
    match ← attempt restriction with
    | some group => return [.node .restrictedVisibility [word, group]]
    | none =>
        let inside ← ahead
        match inside with
        | .group .parenthesis (.token .ident "in" _ _ :: _) _ _ :: _ =>
            return [.node .restrictedVisibility [word, ← groupOf .parenthesis inPath]]
        | _ => return [.node .visibility [word]]
  else return []
where
  inPath : Reader (List SyntaxTree) := do
    let word ← keyword "in"
    return [word, ← plainPath]
  restriction : Reader SyntaxTree :=
    groupOf .parenthesis do
      let first ← ahead
      if Ahead.word "crate" first || Ahead.word "self" first || Ahead.word "super" first then
        let word ← anyWord
        if ← isEmpty then return [.node .path [.node .segment [word]]] else expected []
      else expected []

end Reader

end Wiring.Grammar
