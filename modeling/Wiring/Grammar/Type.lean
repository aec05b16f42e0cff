import Wiring.Grammar.Path

/-!
Types, bounds and generic parameters.
-/

set_option autoImplicit false

namespace Wiring.Grammar

namespace Reader

/-! ## Bounds -/

def binder (parameter : Reader SyntaxTree) : Reader (List SyntaxTree) := do
  if ← peek (Ahead.word "for") then
    let word ← keyword "for"
    let opened ← punct "<"
    let parameters ← separated (peek (Ahead.punct ">")) parameter (punct ",")
    return [word, opened] ++ parameters ++ [← punct ">"]
  else return []

/-- Reads the return type of a function, without a sum of bounds unless `plus` holds. -/
def returnType (nested : Nested) (plus : Bool) : Reader (List SyntaxTree) := do
  if ← peek (Ahead.punct "->") then
    let arrow ← punct "->"
    return [.node .returnType [arrow, ← nested (.type plus)]]
  else return []

def parenthesizedArguments (nested : Nested) : Reader SyntaxTree := do
  let inputs ← groupOf .parenthesis (commaList (nested (.type true)))
  return .node .parenthesizedArguments (inputs :: (← returnType nested false))

def withArguments (arguments : SyntaxTree) : SyntaxTree → SyntaxTree
  | .node .path parts =>
      match parts.getLast? with
      | some (.node .segment inner) =>
          .node .path (parts.dropLast ++ [.node .segment (inner ++ [arguments])])
      | _ => .node .path parts
  | tree => tree

def endsBare (path : SyntaxTree) : Bool :=
  match path.children.getLast? with
  | some (.node .segment parts) => parts.length ≤ 1
  | _ => true

/-- Reads a parameter that a `for` binds or a generic list declares, after its attributes. -/
def genericParameter (nested : Nested) : Reader SyntaxTree := do
  let attributes ← outerAttributes nested
  if ← peek Ahead.lifetime then
    let name ← lifetime
    let bounds ←
      if ← peek (Ahead.punct ":") then
        let colon ← punct ":"
        let listed ← chained
          (do return (← peek (Ahead.punct ",")) || (← peek (Ahead.punct ">"))) lifetime
          (peek (Ahead.punct "+")) (punct "+")
        pure (if listed.isEmpty then [] else [.node .parameterBounds (colon :: listed)])
      else pure []
    return .node .lifetimeParameter (attributes ++ [name] ++ bounds)
  else if ← peek Ahead.name then
    let ident ← name
    let bounds ←
      if ← peek (Ahead.punct ":") then
        let colon ← punct ":"
        let listed ← chained
          (do return (← peek (Ahead.punct ",")) || (← peek (Ahead.punct ">")) ||
            (← peek (Ahead.punct "=")))
          (nested (.bound ⟨false, true⟩)) (peek (Ahead.punct "+")) (punct "+")
        pure (if listed.isEmpty then [] else [.node .parameterBounds (colon :: listed)])
      else pure []
    let default ←
      if ← peek (Ahead.punct "=") then
        let equals ← punct "="
        pure [.node .parameterDefault [equals, ← nested (.type true)]]
      else pure []
    return .node .typeParameter (attributes ++ [.node .name [ident]] ++ bounds ++ default)
  else if ← peek (Ahead.word "const") then
    let word ← keyword "const"
    let ident ← name
    let colon ← punct ":"
    let type ← nested (.type true)
    let default ←
      if ← peek (Ahead.punct "=") then
        let equals ← punct "="
        pure [.node .parameterDefault [equals, ← constArgument nested]]
      else pure []
    return .node .constParameter
      (attributes ++ [word, .node .name [ident], colon, type] ++ default)
  else expected ["lifetime", "identifier", "`const`"]

def traitBound (nested : Nested) (rules : BoundRules) : Reader SyntaxTree := do
  let early ← binder (nested .parameter)
  let constant ←
    if ← peek (Ahead.group .bracket) then
      let line ← lineAhead
      let group ← groupOf .bracket do return [← keyword "const"]
      if rules.constants then pure [group] else refuseAt line .constNotAllowed
    else if ← peek (Ahead.word "const") then
      let line ← lineAhead
      let word ← keyword "const"
      if rules.constants then pure [word] else refuseAt line .constNotAllowed
    else pure []
  let line ← lineAhead
  let question ← punct? "?"
  let late ← if early.isEmpty && !question.isEmpty then binder (nested .parameter) else pure []
  let target ← path nested false
  let target ←
    if endsBare target && ((← peek (Ahead.group .parenthesis)) ||
        ((← peek (Ahead.punct "::")) &&
          (← peek (Ahead.third (Ahead.group .parenthesis))))) then
      let _ ← punct? "::"
      pure (withArguments (← parenthesizedArguments nested) target)
    else pure target
  if !question.isEmpty && !(early.isEmpty && late.isEmpty) then
    refuseAt line .binderOnOptional
  else if constant.isEmpty then
    return .node .traitBound (early ++ question ++ late ++ [target])
  else return .node .verbatim (early ++ constant ++ question ++ late ++ [target])

/-- Reads one bound: a lifetime, a trait, or a trait in parentheses. -/
def bound (nested : Nested) (rules : BoundRules) : Reader SyntaxTree := do
  if ← peek Ahead.lifetime then lifetime
  else if ← peek (Ahead.word "use") then
    let line ← lineAhead
    let word ← keyword "use"
    let opened ← punct "<"
    let captured ← separated (peek (Ahead.punct ">"))
      (do if ← peek Ahead.lifetime then lifetime else anyWord) (punct ",")
    let closed ← punct ">"
    if rules.captures then
      return .node .otherType ([word, opened] ++ captured ++ [closed])
    else refuseAt line .captureNotAllowed
  else if ← peek (Ahead.group .parenthesis) then
    groupOf .parenthesis do return [← traitBound nested rules]
  else traitBound nested rules

def furtherBound (rules : BoundRules) : Reader Bool := do
  return (← peek Ahead.anyWord) || (← peek (Ahead.punct "::")) ||
    (← peek (Ahead.punct "?")) || (← peek Ahead.lifetime) ||
    (← peek (Ahead.group .parenthesis)) || (rules.constants && (← peek (Ahead.group .bracket)))

/-- Reads bounds joined by plus signs; without `plus` only one. -/
def boundSum (nested : Nested) (rules : BoundRules) (plus : Bool) : Reader (List SyntaxTree) := do
  loop ((← ahead).length + 1) []
where
  loop : Nat → List SyntaxTree → Reader (List SyntaxTree)
    | 0, done => return done.reverse
    | fuel + 1, done => do
        let tree ← nested (.bound rules)
        if plus && (← peek (Ahead.punct "+")) then
          let sign ← punct "+"
          if ← furtherBound rules then loop fuel (sign :: tree :: done)
          else return (sign :: tree :: done).reverse
        else return (tree :: done).reverse

/-- A bound that can be a trait: neither a lifetime nor a list of captures. -/
def isTraitLike : SyntaxTree → Bool
  | .token _ _ _ _ => false
  | .node .otherType _ => false
  | _ => true

def objectBounds (nested : Nested) (line : Nat) (plus : Bool) : Reader (List SyntaxTree) := do
  let bounds ← boundSum nested ⟨false, false⟩ plus
  if bounds.any isTraitLike then return bounds else refuseAt line .objectWithoutTrait

/-! ## Types -/

def parameterName : Reader (List SyntaxTree) := do
  if ((← peek Ahead.name) || (← peek (Ahead.word "_")) || (← peek (Ahead.word "self"))) &&
      (← peek (Ahead.second (Ahead.punct ":"))) &&
      !(← peek (Ahead.second (Ahead.punct "::"))) then
    let ident ← anyWord
    return [ident, ← punct ":"]
  else return []

def functionTypeInputs (nested : Nested) : Reader (List SyntaxTree) := do
  loop ((← ahead).length + 1) []
where
  variadicAhead : Reader Bool := do
    return (← peek (Ahead.punct "...")) ||
      (((← peek Ahead.name) || (← peek (Ahead.word "_"))) &&
        (← peek (Ahead.second (Ahead.punct ":"))) && (← peek (Ahead.third (Ahead.punct "..."))))
  selfAhead : Reader Bool := do
    return (← peek (Ahead.word "mut")) && (← peek (Ahead.second (Ahead.word "self")))
  mutableSelf : Reader (List SyntaxTree) := do
    let start ← ahead
    let _ ← keyword "mut"
    if ← peek (Ahead.second (Ahead.punct ":")) then
      let _ ← parameterName
      let _ ← nested (.type true)
    else
      let _ ← keyword "self"
    return [.node .verbatim (← since start)]
  input (first : Bool) : Reader (List SyntaxTree) := do
    if first && (← selfAhead) then mutableSelf
    else if !first && (← peek (Ahead.word "self")) then return [← nested (.type true)]
    else
      let name ← parameterName
      if first && (← selfAhead) then
        let start ← ahead
        let _ ← keyword "mut"
        let _ ← keyword "self"
        return [.node .verbatim (name ++ (← since start))]
      else return name ++ [← nested (.type true)]
  loop : Nat → List SyntaxTree → Reader (List SyntaxTree)
    | 0, done => return done
    | fuel + 1, done => do
        if ← isEmpty then return done
        else
          let attributes ← outerAttributes nested
          if ← variadicAhead then
            let name ← parameterName
            let dots ← punct "..."
            let comma ← if ← isEmpty then pure [] else pure [← punct ","]
            return done ++ attributes ++ name ++ [dots] ++ comma
          else
            let tree ← input done.isEmpty
            let done := done ++ attributes ++ tree
            if ← isEmpty then return done
            else loop fuel (done ++ [← punct ","])

def callingConvention : Reader (List SyntaxTree) := do
  if ← peek (Ahead.word "extern") then
    let word ← keyword "extern"
    if ← peek (Ahead.literalOf .string) then return [word, ← stringLiteral] else return [word]
  else return []

def functionType (nested : Nested) (binder : List SyntaxTree) : Reader SyntaxTree := do
  let unsafety ← keyword? "unsafe"
  let convention ← callingConvention
  let word ← keyword "fn"
  let inputs ← groupOf .parenthesis (functionTypeInputs nested)
  return .node .otherType
    (binder ++ unsafety ++ convention ++ [word, inputs] ++ (← returnType nested false))

def bareObject (nested : Nested) (first : SyntaxTree) (plus : Bool) : Reader SyntaxTree := do
  if plus then return .node .traitObjectType (← loop ((← ahead).length + 1) [first])
  else return .node .traitObjectType [first]
where
  loop : Nat → List SyntaxTree → Reader (List SyntaxTree)
    | 0, done => return done
    | fuel + 1, done => do
        if (← peek (Ahead.punct "+")) && !(← peek (Ahead.punct "+=")) then
          let sign ← punct "+"
          if ← furtherBound ⟨false, false⟩ then
            loop fuel (done ++ [sign, ← nested (.bound ⟨false, true⟩)])
          else return done ++ [sign]
        else return done

def isPlainPath (path : SyntaxTree) : Bool :=
  path.children.all fun part => part.children.length ≤ 1

def namedType (nested : Nested) (binder : List SyntaxTree) (plus : Bool) : Reader SyntaxTree := do
  match ← qualifiedPath nested false .pathType .qualifiedType with
  | .node .pathType [target] =>
      if (← peek (Ahead.punct "!")) && !(← peek (Ahead.punct "!=")) && isPlainPath target then
        let bang ← punct "!"
        return .node .macroType [target, bang, ← rawGroup]
      else if !binder.isEmpty ||
          (plus && (← peek (Ahead.punct "+")) && !(← peek (Ahead.punct "+="))) then
        bareObject nested (.node .traitBound (binder ++ [target])) plus
      else return .node .pathType [target]
  | tree => return tree

def objectRest (nested : Nested) (first : SyntaxTree) : Reader SyntaxTree := do
  return .node .traitObjectType (← loop ((← ahead).length + 1) [first])
where
  loop : Nat → List SyntaxTree → Reader (List SyntaxTree)
    | 0, done => return done
    | fuel + 1, done => do
        if ← peek (Ahead.punct "+") then
          let sign ← punct "+"
          loop fuel (done ++ [sign, ← nested (.bound ⟨false, true⟩)])
        else return done

def boundOfType? : SyntaxTree → Option SyntaxTree
  | .node .pathType [target] => some (.node .traitBound [target])
  | .node .traitObjectType [only] =>
      match only with
      | .node .traitBound _ => some only
      | .token .lifetime _ _ _ => some only
      | _ => some only
  | _ => none

inductive Parenthesized where
  | tuple (parts : List SyntaxTree)
  | one (type : SyntaxTree)
  | lifetimes (type : SyntaxTree)
  | optional (bound : SyntaxTree)

def parenthesizedType (nested : Nested) (plus : Bool) : Reader SyntaxTree := do
  let (inside, openLine, closeLine) ← group .parenthesis body
  match inside with
  | .tuple parts => return .node .otherType [.group .parenthesis parts openLine closeLine]
  | .lifetimes type =>
      return .node .parenthesizedType [.group .parenthesis [type] openLine closeLine]
  | .optional bound => objectRest nested (.group .parenthesis [bound] openLine closeLine)
  | .one type =>
      if plus && (← peek (Ahead.punct "+")) then
        match boundOfType? type with
        | some bound => objectRest nested (.group .parenthesis [bound] openLine closeLine)
        | none =>
            return .node .parenthesizedType [.group .parenthesis [type] openLine closeLine]
      else return .node .parenthesizedType [.group .parenthesis [type] openLine closeLine]
where
  body : Reader Parenthesized := do
    if ← isEmpty then return .tuple []
    else if ← peek Ahead.lifetime then
      let line ← lineAhead
      return .lifetimes (.node .traitObjectType (← objectBounds nested line true))
    else if ← peek (Ahead.punct "?") then
      return .optional (← traitBound nested ⟨false, false⟩)
    else
      let first ← nested (.type true)
      if ← peek (Ahead.punct ",") then
        let comma ← punct ","
        return .tuple ([first, comma] ++ (← commaList (nested (.type true))))
      else return .one first

def bracketType (nested : Nested) : Reader SyntaxTree := do
  let group ← groupOf .bracket do
    let element ← nested (.type true)
    if ← peek (Ahead.punct ";") then
      let semicolon ← punct ";"
      return [element, semicolon, ← nested (.expr true)]
    else return [element]
  return .node .otherType [group]

def pointerType (nested : Nested) : Reader SyntaxTree := do
  let star ← punct "*"
  let mutability ←
    if ← peek (Ahead.word "const") then keyword "const"
    else if ← peek (Ahead.word "mut") then keyword "mut"
    else expected ["`const`", "`mut`"]
  return .node .otherType [star, mutability, ← nested (.type false)]

def referenceType (nested : Nested) : Reader SyntaxTree := do
  let sign ← punct "&"
  let region ← if ← peek Ahead.lifetime then pure [← lifetime] else pure []
  let mutability ← keyword? "mut"
  return .node .referenceType ([sign] ++ region ++ mutability ++ [← nested (.type false)])

def dynType (nested : Nested) (plus : Bool) : Reader SyntaxTree := do
  let start ← ahead
  let line ← lineAhead
  let word ← keyword "dyn"
  let star ← punct? "*"
  let bounds ← objectBounds nested line plus
  if star.isEmpty then return .node .traitObjectType (word :: bounds)
  else return .node .verbatim (← since start)

def implType (nested : Nested) (plus : Bool) : Reader SyntaxTree := do
  let line ← lineAhead
  let word ← keyword "impl"
  let bounds ← boundSum nested ⟨true, true⟩ plus
  if bounds.any isTraitLike then return .node .implTraitType (word :: bounds)
  else refuseAt line .boundsWithoutTrait

def typeStarts : List String := [
  "`for`", "parentheses", "`fn`", "`unsafe`", "`extern`", "identifier", "`::`", "`<`", "`dyn`",
  "square brackets", "`*`", "`&`", "`!`", "`impl`", "`_`", "lifetime"]

def boundTypeStarts : List String := [
  "identifier", "`fn`", "`unsafe`", "`extern`", "`super`", "`self`", "`Self`", "`crate`"]

def type (nested : Nested) (plus : Bool) : Reader SyntaxTree := do
  let bound ← binder (nested .parameter)
  let ahead ← ahead
  let isFunction := Ahead.word "fn" ahead || Ahead.word "unsafe" ahead || Ahead.word "extern" ahead
  let isNamed := Ahead.name ahead || Ahead.pathWord ahead
  if !bound.isEmpty && !(isFunction || isNamed) then expected boundTypeStarts
  else if Ahead.group .parenthesis ahead then parenthesizedType nested plus
  else if isFunction then functionType nested bound
  else if isNamed || Ahead.punct "::" ahead || Ahead.punct "<" ahead then
    namedType nested bound plus
  else if Ahead.word "dyn" ahead then dynType nested plus
  else if Ahead.group .bracket ahead then bracketType nested
  else if Ahead.punct "*" ahead then pointerType nested
  else if Ahead.punct "&" ahead then referenceType nested
  else if Ahead.punct "!" ahead then return .node .otherType [← punct "!"]
  else if Ahead.word "impl" ahead then implType nested plus
  else if Ahead.word "_" ahead then return .node .inferredType [← anyWord]
  else if Ahead.lifetime ahead then
    return .node .traitObjectType (← objectBounds nested (← lineAhead) true)
  else expected typeStarts

/-! ## Generic parameters -/

/-- Reads the parameters that an item declares; an empty list leaves no trace. -/
def generics (nested : Nested) : Reader (List SyntaxTree) := do
  if ← peek (Ahead.punct "<") then
    let opened ← punct "<"
    let parameters ← separated (peek (Ahead.punct ">")) parameter (punct ",")
    let closed ← punct ">"
    if parameters.isEmpty then return []
    else return [.node .generics ([opened] ++ parameters ++ [closed])]
  else return []
where
  parameter : Reader SyntaxTree := do
    let attributes ← outerAttributes nested
    if ← peek (Ahead.word "_") then
      return .node .typeParameter (attributes ++ [.node .name [← anyWord]])
    else return (← nested .parameter).withAttributes attributes

def clauseEnds (colons : Bool) : Reader Bool := do
  return (← isEmpty) || (← peek (Ahead.group .brace)) || (← peek (Ahead.punct ",")) ||
    (← peek (Ahead.punct ";")) ||
    ((← peek (Ahead.punct ":")) && (colons || !(← peek (Ahead.punct "::")))) ||
    (← peek (Ahead.punct "="))

def predicate (nested : Nested) : Reader SyntaxTree := do
  if (← peek Ahead.lifetime) && (← peek (Ahead.second (Ahead.punct ":"))) then
    let name ← lifetime
    let colon ← punct ":"
    let bounds ← chained (clauseEnds true) lifetime (peek (Ahead.punct "+")) (punct "+")
    return .node .otherType ([name, colon] ++ bounds)
  else
    let bound ← binder (nested .parameter)
    let target ← nested (.type true)
    let colon ← punct ":"
    let bounds ← chained (clauseEnds false) (nested (.bound ⟨false, true⟩))
      (peek (Ahead.punct "+")) (punct "+")
    return .node .otherType (bound ++ [target, colon] ++ bounds)

/-- Reads a where clause; one without predicates leaves no trace. -/
def whereClause (nested : Nested) : Reader (List SyntaxTree) := do
  if ← peek (Ahead.word "where") then
    let word ← keyword "where"
    let predicates ← chained (clauseEnds false) (predicate nested) (peek (Ahead.punct ","))
      (punct ",")
    if predicates.isEmpty then return []
    else return [.node .whereClause (word :: predicates)]
  else return []

end Reader

end Wiring.Grammar
