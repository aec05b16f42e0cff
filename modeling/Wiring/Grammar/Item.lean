import Wiring.Grammar.Statement

/-!
Items. Forms that compilers reject after reading are kept as their tokens.
-/

set_option autoImplicit false

namespace Wiring.Grammar

def Ahead.signature (safe : Bool) (ahead : List SyntaxTree) : Bool :=
  let skip (text : String) (found : List SyntaxTree) : List SyntaxTree :=
    if Ahead.word text found then found.drop 1 else found
  let found := skip "async" (skip "const" ahead)
  let found :=
    if safe && Ahead.word "safe" found then found.drop 1 else skip "unsafe" found
  let found :=
    if Ahead.word "extern" found then
      let rest := found.drop 1
      if Ahead.literalOf .string rest then rest.drop 1 else rest
    else found
  Ahead.word "fn" found

def Ahead.macroPath (ahead : List SyntaxTree) : Bool :=
  Ahead.name ahead || Ahead.word "self" ahead || Ahead.word "super" ahead ||
    Ahead.word "crate" ahead || Ahead.punct "::" ahead

/-- Whether angle brackets after `impl` hold parameters rather than a qualified self type. -/
def Ahead.implGenerics (ahead : List SyntaxTree) : Bool :=
  let second (test : List SyntaxTree → Bool) : Bool := Ahead.second test ahead
  let third (test : List SyntaxTree → Bool) : Bool := Ahead.third test ahead
  Ahead.punct "<" ahead &&
    (second (Ahead.punct ">") || second (Ahead.punct "#") ||
      ((second Ahead.lifetime || second Ahead.name) &&
        (third (Ahead.punct ">") || third (Ahead.punct ",") ||
          (third (Ahead.punct ":") && !third (Ahead.punct "::")) || third (Ahead.punct "="))) ||
      second (Ahead.word "const"))

namespace Reader

def verbatim (start : List SyntaxTree) : Reader SyntaxTree := do
  return .node .verbatim (← since start)

def itemName : Reader SyntaxTree := do
  return .node .name [← name]

def constName : Reader SyntaxTree := do
  if (← peek Ahead.name) || (← peek (Ahead.word "_")) then return .node .name [← anyWord]
  else expected ["identifier", "`_`"]

def initialValue (nested : Nested) : Reader (List SyntaxTree) := do
  if ← peek (Ahead.punct "=") then
    let equals ← punct "="
    return [equals, ← nested (.expr true)]
  else return []

/-! ## Fields -/

/-- Reads a field that has a name, up to a list of them inside an anonymous type. The number
bounds how deep such lists nest. -/
def namedField (nested : Nested) : Nat → Reader SyntaxTree
  | 0 => expected []
  | depth + 1 => do
      let attributes ← outerAttributes nested
      let seen ← visibility
      let isUnnamed ← peek (Ahead.word "_")
      let ident ← if isUnnamed then anyWord else name
      let colon ← punct ":"
      let found ← ahead
      let type ←
        if isUnnamed && (Ahead.word "struct" found ||
            (Ahead.word "union" found && Ahead.second (Ahead.group .brace) found)) then
          let _ ← anyWord
          let _ ← groupOf .brace (commaList (namedField nested depth))
          verbatim found
        else nested (.type true)
      return .node .field
        (attributes ++ seen ++ [.node .name [ident], colon, .node .fieldType [type]])

def namedFields (nested : Nested) : Reader SyntaxTree := do
  let depth := (← ahead).length + 64
  return .node .namedFields [← groupOf .brace (commaList (namedField nested depth))]

def tupleField (nested : Nested) : Reader SyntaxTree := do
  let attributes ← outerAttributes nested
  let seen ← visibility
  return .node .field (attributes ++ seen ++ [.node .fieldType [← nested (.type true)]])

def tupleFields (nested : Nested) : Reader SyntaxTree := do
  return .node .tupleFields [← groupOf .parenthesis (commaList (tupleField nested))]

def structBody (nested : Nested) : Reader (List SyntaxTree) := do
  let hasClause ← peek (Ahead.word "where")
  let early ← whereClause nested
  let found ← ahead
  if !hasClause && Ahead.group .parenthesis found then
    let fields ← tupleFields nested
    let hasLate ← peek (Ahead.word "where")
    let late ← whereClause nested
    if ← peek (Ahead.punct ";") then return [fields] ++ late ++ [← punct ";"]
    else expected (if hasLate then ["`;`"] else ["`where`", "`;`"])
  else if Ahead.group .brace found then return early ++ [← namedFields nested]
  else if Ahead.punct ";" found then return early ++ [← punct ";"]
  else expected (if hasClause then ["curly braces", "`;`"]
    else ["`where`", "parentheses", "curly braces", "`;`"])

/-- Reads a variant of an enum. A visibility on it means nothing and is dropped. -/
def variant (nested : Nested) : Reader SyntaxTree := do
  let attributes ← outerAttributes nested
  let _ ← visibility
  let ident ← itemName
  let fields ←
    if ← peek (Ahead.group .brace) then pure [← namedFields nested]
    else if ← peek (Ahead.group .parenthesis) then pure [← tupleFields nested]
    else pure []
  return .node .otherItem (attributes ++ [ident] ++ fields ++ (← initialValue nested))

def dataItem (nested : Nested) (front : List SyntaxTree) : Reader SyntaxTree := do
  if ← peek (Ahead.word "struct") then
    let word ← keyword "struct"
    let ident ← itemName
    let parameters ← generics nested
    return .node .structItem (front ++ [word, ident] ++ parameters ++ (← structBody nested))
  else if ← peek (Ahead.word "enum") then
    let word ← keyword "enum"
    let ident ← itemName
    let parameters ← generics nested
    let clause ← whereClause nested
    let variants ← groupOf .brace (commaList (variant nested))
    return .node .enumItem (front ++ [word, ident] ++ parameters ++ clause ++ [variants])
  else if ← peek (Ahead.word "union") then
    let word ← keyword "union"
    let ident ← itemName
    let parameters ← generics nested
    let clause ← whereClause nested
    return .node .unionItem
      (front ++ [word, ident] ++ parameters ++ clause ++ [← namedFields nested])
  else expected ["`struct`", "`enum`", "`union`"]

/-! ## Functions -/

def receiver (nested : Nested) : Reader (List SyntaxTree × Nat) := do
  let reference ←
    if ← peek (Ahead.punct "&") then
      let sign ← punct "&"
      if ← peek Ahead.lifetime then pure [sign, ← lifetime] else pure [sign]
    else pure []
  let mutability ← keyword? "mut"
  let line ← lineAhead
  let self ← keyword "self"
  let head := reference ++ mutability ++ [self]
  if reference.isEmpty && (← peek (Ahead.punct ":")) then
    let colon ← punct ":"
    return (head ++ [colon, ← nested (.type true)], line)
  else return (head, line)

inductive ParameterEntry where
  | receiver (tree : SyntaxTree) (line : Nat)
  | typed (tree : SyntaxTree)
  | variadic (tree : SyntaxTree)

/-- Reads one entry of a parameter list. A type alone stands for an unnamed parameter. -/
def parameterEntry (nested : Nested) : Reader ParameterEntry := do
  let attributes ← outerAttributes nested
  if ← peek (Ahead.punct "...") then
    return .variadic (.node .otherItem (attributes ++ [← punct "..."]))
  else
    match ← attempt (receiver nested) with
    | some (parts, line) => return .receiver (.node .receiver (attributes ++ parts)) line
    | none =>
        if (← peek Ahead.name) && (← peek (Ahead.second (Ahead.punct "<"))) then
          let line ← lineAhead
          let type ← nested (.type true)
          return .typed (.node .parameter (attributes ++
            [.node .pattern [.node .otherPattern [.token .ident "_" line (by decide)]],
              .token .punct ":" line (by decide), .node .fieldType [type]]))
        else
          let target ← nested .pattern
          let colon ← punct ":"
          if ← peek (Ahead.punct "...") then
            return .variadic
              (.node .otherItem (attributes ++ [target, colon, ← punct "..."]))
          else
            return .typed (.node .parameter (attributes ++
              [.node .pattern [target], colon, .node .fieldType [← nested (.type true)]]))

/-- Reads the parameters of a function. The value itself may stand only first. -/
def parameters (nested : Nested) : Reader (List SyntaxTree) := do
  loop ((← ahead).length + 1) false []
where
  loop : Nat → Bool → List SyntaxTree → Reader (List SyntaxTree)
    | 0, _, done => return done
    | fuel + 1, hasReceiver, done => do
        if ← isEmpty then return done
        else
          match ← parameterEntry nested with
          | .variadic tree =>
              if ← isEmpty then return done ++ [tree] else return done ++ [tree, ← punct ","]
          | .receiver tree line =>
              if hasReceiver then refuseAt line .secondReceiver
              else if !done.isEmpty then refuseAt line .lateReceiver
              else if ← isEmpty then return done ++ [tree]
              else loop fuel true (done ++ [tree, ← punct ","])
          | .typed tree =>
              if ← isEmpty then return done ++ [tree]
              else loop fuel hasReceiver (done ++ [tree, ← punct ","])

/-- Reads the head of a function: qualifiers, name, parameters and return type. -/
def signature (nested : Nested) (safe : Bool) : Reader SyntaxTree := do
  let constness ← keyword? "const"
  let asyncness ← keyword? "async"
  let safety ←
    if safe && (← peek (Ahead.word "safe")) then keyword? "safe" else keyword? "unsafe"
  let convention ← callingConvention
  let word ← keyword "fn"
  let ident ← itemName
  let declared ← generics nested
  let inputs ← groupOf .parenthesis (parameters nested)
  let output ← returnType nested true
  let clause ← whereClause nested
  return .node .signature
    (constness ++ asyncness ++ safety ++ convention ++ [word, ident] ++ declared ++ [inputs] ++
      output ++ clause)

/-- Reads a function outside an implementation; one without a body is kept as its tokens. -/
def functionItem (nested : Nested) (start attributes : List SyntaxTree) : Reader SyntaxTree := do
  let seen ← visibility
  let head ← signature nested false
  if ← peek (Ahead.punct ";") then
    let _ ← punct ";"
    verbatim start
  else
    return .node .functionItem (attributes ++ seen ++ [head, ← block nested])

/-! ## Imports -/

def useEntries (nested : Nested) (roots : Bool) : Reader (List SyntaxTree × Bool) := do
  loop ((← ahead).length + 1) false []
where
  loop : Nat → Bool → List SyntaxTree → Reader (List SyntaxTree × Bool)
    | 0, rooted, done => return (done, rooted)
    | fuel + 1, rooted, done => do
        if ← isEmpty then return (done, rooted)
        else
          let root ← if roots then punct? "::" else pure []
          let tree ← nested (.useTree (roots && root.isEmpty))
          let rooted := rooted || !root.isEmpty || tree.hasKind .verbatim
          if ← isEmpty then return (done ++ [tree], rooted)
          else loop fuel rooted (done ++ [tree, ← punct ","])

/-- Reads what a use item imports; a group with an entry at a crate root is kept as no import. -/
def useTree (nested : Nested) (roots : Bool) : Reader SyntaxTree := do
  let found ← ahead
  if Ahead.name found || Ahead.word "self" found || Ahead.word "super" found ||
      Ahead.word "crate" found || Ahead.word "try" found then
    let ident ← anyWord
    if ← peek (Ahead.punct "::") then
      let separator ← punct "::"
      let inner ← nested (.useTree false)
      let kind : NodeKind := if inner.hasKind .verbatim then .verbatim else .usePath
      return .node kind [ident, separator, inner]
    else if ← peek (Ahead.word "as") then
      let word ← keyword "as"
      if (← peek Ahead.name) || (← peek (Ahead.word "_")) then
        return .node .useRename [ident, word, ← anyWord]
      else expected ["identifier", "underscore"]
    else return .node .useName [ident]
  else if Ahead.punct "*" found then return .node .useGlob [← punct "*"]
  else if Ahead.group .brace found then
    let ((entries, rooted), openLine, closeLine) ← group .brace (useEntries nested roots)
    let kind : NodeKind := if rooted then .verbatim else .useGroup
    return .node kind [.group .brace entries openLine closeLine]
  else expected ["identifier", "`self`", "`super`", "`crate`", "`try`", "`*`", "curly braces"]

/-- Reads a use item from its visibility on. Where crate roots may stand in groups, an item that
has one is kept as its tokens. -/
def useItem (nested : Nested) (start attributes : List SyntaxTree) (roots : Bool) :
    Reader SyntaxTree := do
  let seen ← visibility
  let word ← keyword "use"
  let root ← punct? "::"
  let tree ← nested (.useTree (roots && root.isEmpty))
  let semicolon ← punct ";"
  if tree.hasKind .verbatim then verbatim start
  else return .node .useItem (attributes ++ seen ++ [word] ++ root ++ [tree, semicolon])

/-! ## Constants and aliases -/

/-- Reads a static variable; one without a type or a value is kept as its tokens. -/
def staticItem (nested : Nested) (start attributes : List SyntaxTree) : Reader SyntaxTree := do
  let seen ← visibility
  let word ← keyword "static"
  let mutability ← keyword? "mut"
  let ident ← itemName
  if ← peek (Ahead.punct "=") then
    let _ ← initialValue nested
    let _ ← punct ";"
    verbatim start
  else
    let colon ← punct ":"
    let type ← nested (.type true)
    if ← peek (Ahead.punct ";") then
      let _ ← punct ";"
      verbatim start
    else
      let equals ← punct "="
      let value ← nested (.expr true)
      let semicolon ← punct ";"
      return .node .otherItem (attributes ++ seen ++ [word] ++ mutability ++
        [ident, colon, type, equals, value, semicolon])

/-- Reads a constant from its keyword on. One with parameters or a clause, or without a value
where it needs one, is kept as its tokens. -/
def constantItem (nested : Nested) (start front : List SyntaxTree) (needsValue : Bool) :
    Reader SyntaxTree := do
  let word ← keyword "const"
  let ident ← constName
  let hasAngles ← peek (Ahead.punct "<")
  let _ ← generics nested
  let colon ← punct ":"
  let type ← nested (.type true)
  let value ← initialValue nested
  let clause ← whereClause nested
  let semicolon ← punct ";"
  if hasAngles || !clause.isEmpty || (needsValue && value.isEmpty) then verbatim start
  else
    return .node .otherItem (front ++ [word, ident, colon, type] ++ value ++ [semicolon])

def itemBounds (nested : Nested) (ends : Reader Bool) : Reader (List SyntaxTree) :=
  separated ends (nested (.bound ⟨false, true⟩)) (punct "+")

inductive ClausePlace where
  | beforeEquals
  | afterEquals
  | either
deriving DecidableEq

/-- A type alias: what it consists of, whether it has bounds and whether it has a type. -/
structure Alias where
  parts : List SyntaxTree
  hasBounds : Bool
  hasType : Bool

def typeAlias (nested : Nested) (place : ClausePlace) : Reader Alias := do
  let word ← keyword "type"
  let ident ← itemName
  let parameters ← generics nested
  let colon ← punct? ":"
  let ends : Reader Bool := do
    return (← peek (Ahead.word "where")) || (← peek (Ahead.punct "=")) ||
      (← peek (Ahead.punct ";"))
  let bounds ← if colon.isEmpty then pure [] else itemBounds nested ends
  let early ← if place == .afterEquals then pure [] else whereClause nested
  let type ←
    if ← peek (Ahead.punct "=") then
      let equals ← punct "="
      pure [equals, ← nested (.type true)]
    else pure []
  let late ←
    if place != .beforeEquals && early.isEmpty then whereClause nested else pure []
  let semicolon ← punct ";"
  let colon := if bounds.isEmpty then [] else colon
  return ⟨[word, ident] ++ parameters ++ colon ++ bounds ++ early ++ type ++ late ++ [semicolon],
    !colon.isEmpty, !type.isEmpty⟩

/-! ## Macros -/

def macroItem (attributes : List SyntaxTree) : Reader SyntaxTree := do
  let path ← plainPath
  let bang ← punct "!"
  let ident ←
    if (← peek Ahead.name) || (← peek (Ahead.word "try")) then pure [← anyWord]
    else pure []
  let arguments ← rawGroup
  let semicolon ← if arguments.endsWithBrace then pure [] else pure [← punct ";"]
  return .node .otherItem (attributes ++ [path, bang] ++ ident ++ [arguments] ++ semicolon)

def macroMember (attributes : List SyntaxTree) : Reader SyntaxTree := do
  let path ← plainPath
  let bang ← punct "!"
  let arguments ← rawGroup
  let semicolon ← if arguments.endsWithBrace then pure [] else pure [← punct ";"]
  return .node .otherItem (attributes ++ [path, bang, arguments] ++ semicolon)

/-- Reads a macro definition with its parameters; it is kept as its tokens. -/
def macroDefinition (start : List SyntaxTree) : Reader SyntaxTree := do
  let _ ← visibility
  let _ ← keyword "macro"
  let _ ← name
  let hasParameters ← peek (Ahead.group .parenthesis)
  if hasParameters then
    let _ ← rawGroup
  if ← peek (Ahead.group .brace) then
    let _ ← rawGroup
    verbatim start
  else expected (if hasParameters then ["curly braces"] else ["parentheses", "curly braces"])

/-! ## Members -/

/-- Reads the body of a function that may instead end with a semicolon. -/
def optionalBody (nested : Nested) : Reader SyntaxTree := do
  if ← peek (Ahead.group .brace) then block nested
  else if ← peek (Ahead.punct ";") then punct ";"
  else expected ["curly braces", "`;`"]

def macroStarts : List String :=
  ["identifier", "`self`", "`super`", "`crate`", "`::`"]

/-- What a refusal lists besides the words that may begin something: a macro call, which is none
after a visibility. -/
def orMacroCall (starts : List String) (plain : Bool) : List String :=
  if plain then starts ++ macroStarts else starts

def memberStarts : List String :=
  ["`fn`", "`const`", "`type`"]

/-- Reads a member of a trait. One with a visibility or a default is kept as its tokens. -/
def traitMember (nested : Nested) : Reader SyntaxTree := do
  let start ← ahead
  let attributes ← outerAttributes nested
  let seen ← visibility
  let preset ← keyword? "default"
  let isPlain := seen.isEmpty && preset.isEmpty
  let found ← ahead
  let method : Reader SyntaxTree := do
    let head ← signature nested false
    return .node .otherItem (attributes ++ [head, ← optionalBody nested])
  let tree ←
    if Ahead.signature false found then method
    else if Ahead.word "const" found then
      let rest := found.drop 1
      if Ahead.name rest || Ahead.word "_" rest then
        constantItem nested start attributes false
      else expected ["identifier", "`_`", "`async`", "`unsafe`", "`extern`", "`fn`"]
    else if Ahead.word "type" found then
      let found ← typeAlias nested .afterEquals
      pure (.node .otherItem (attributes ++ found.parts))
    else if isPlain && Ahead.macroPath found then macroMember attributes
    else expected (orMacroCall memberStarts isPlain)
  if isPlain then return tree else verbatim start

def implMember (nested : Nested) : Reader SyntaxTree := do
  let start ← ahead
  let attributes ← outerAttributes nested
  let seen ← visibility
  let preset ←
    if (← peek (Ahead.word "default")) && !(← peek (Ahead.second (Ahead.punct "!"))) then
      keyword? "default"
    else pure []
  let isPlain := seen.isEmpty && preset.isEmpty
  let front := attributes ++ seen ++ preset
  let found ← ahead
  if Ahead.signature false found then
    let head ← signature nested false
    if ← peek (Ahead.punct ";") then
      let _ ← punct ";"
      verbatim start
    else return .node .method (front ++ [head, ← block nested])
  else if Ahead.word "const" found then constantItem nested start front true
  else if Ahead.word "type" found then
    let found ← typeAlias nested .afterEquals
    if found.hasType && !found.hasBounds then return .node .otherItem (front ++ found.parts)
    else verbatim start
  else if isPlain && Ahead.macroPath found then macroMember attributes
  else expected (orMacroCall memberStarts isPlain)

def foreignMember (nested : Nested) : Reader SyntaxTree := do
  let start ← ahead
  let attributes ← outerAttributes nested
  let seen ← visibility
  let found ← ahead
  let isSafe := Ahead.word "safe" found
  if Ahead.signature true found then
    let head ← signature nested true
    if ← peek (Ahead.group .brace) then
      let _ ← block nested
      verbatim start
    else
      let semicolon ← punct ";"
      if head.children.any fun part => part.text? == some "safe" then verbatim start
      else return .node .otherItem (attributes ++ seen ++ [head, semicolon])
  else if Ahead.word "static" found ||
      ((isSafe || Ahead.word "unsafe" found) && Ahead.second (Ahead.word "static") found) then
    let safety ← if isSafe then keyword? "safe" else keyword? "unsafe"
    let word ← keyword "static"
    let mutability ← keyword? "mut"
    let ident ← itemName
    let colon ← punct ":"
    let type ← nested (.type true)
    let value ← initialValue nested
    let semicolon ← punct ";"
    if !safety.isEmpty || !value.isEmpty then verbatim start
    else
      return .node .otherItem
        (attributes ++ seen ++ [word] ++ mutability ++ [ident, colon, type, semicolon])
  else if Ahead.word "type" found then
    let found ← typeAlias nested .either
    if found.hasBounds || found.hasType then verbatim start
    else return .node .otherItem (attributes ++ seen ++ found.parts)
  else if seen.isEmpty && Ahead.macroPath found then macroMember attributes
  else expected (orMacroCall ["`fn`", "`static`", "`type`"] seen.isEmpty)

def members (nested : Nested) (member : Reader SyntaxTree) : Reader SyntaxTree :=
  groupOf .brace do
    let attributes ← innerAttributes nested
    return attributes ++ (← manyUntil isEmpty member)

/-! ## Modules, traits and implementations -/

def crateItem (attributes : List SyntaxTree) : Reader SyntaxTree := do
  let seen ← visibility
  let first ← keyword "extern"
  let word ← keyword "crate"
  let ident ← if ← peek (Ahead.word "self") then anyWord else name
  let rename ←
    if ← peek (Ahead.word "as") then
      let word ← keyword "as"
      pure [word, ← if ← peek (Ahead.word "_") then anyWord else name]
    else pure []
  let semicolon ← punct ";"
  return .node .otherItem
    (attributes ++ seen ++ [first, word, ident] ++ rename ++ [semicolon])

def foreignItem (nested : Nested) (attributes : List SyntaxTree) : Reader SyntaxTree := do
  let unsafety ← keyword? "unsafe"
  if ← peek (Ahead.word "extern") then
    let convention ← callingConvention
    let body ← members nested (foreignMember nested)
    return .node .otherItem (attributes ++ unsafety ++ convention ++ [body])
  else expected ["`extern`"]

def moduleItem (nested : Nested) (attributes : List SyntaxTree) : Reader SyntaxTree := do
  let seen ← visibility
  let unsafety ← keyword? "unsafe"
  let word ← keyword "mod"
  let ident ← if ← peek (Ahead.word "try") then anyWord else name
  let front := attributes ++ seen ++ unsafety ++ [word, .node .name [ident]]
  if ← peek (Ahead.punct ";") then return .node .moduleItem (front ++ [← punct ";"])
  else if ← peek (Ahead.group .brace) then
    return .node .moduleItem (front ++ [← members nested (nested .item)])
  else expected ["`;`", "curly braces"]

def traitAlias (nested : Nested) (front : List SyntaxTree) : Reader SyntaxTree := do
  let equals ← punct "="
  let ends : Reader Bool := do
    return (← peek (Ahead.word "where")) || (← peek (Ahead.punct ";"))
  let bounds ← itemBounds nested ends
  let clause ← whereClause nested
  return .node .otherItem (front ++ [equals] ++ bounds ++ clause ++ [← punct ";"])

def traitItem (nested : Nested) (attributes : List SyntaxTree) : Reader SyntaxTree := do
  let seen ← visibility
  let marks := (← keyword? "unsafe") ++ (← keyword? "auto")
  let word ← keyword "trait"
  let ident ← itemName
  let parameters ← generics nested
  let front := attributes ++ seen ++ marks ++ [word, ident] ++ parameters
  let found ← ahead
  if marks.isEmpty && Ahead.punct "=" found then traitAlias nested front
  else if marks.isEmpty && !(Ahead.group .brace found || Ahead.punct ":" found ||
      Ahead.word "where" found) then
    expected ["curly braces", "`:`", "`where`", "`=`"]
  else
    let colon ← punct? ":"
    let ends : Reader Bool := do
      return (← peek (Ahead.word "where")) || (← peek (Ahead.group .brace))
    let bounds ← if colon.isEmpty then pure [] else itemBounds nested ends
    let clause ← whereClause nested
    let body ← members nested (traitMember nested)
    return .node .traitItem
      (front ++ (if bounds.isEmpty then [] else colon) ++ bounds ++ clause ++ [body])

/-- Reads an implementation. One that is public or constant, or whose trait is no path, is kept
as its tokens. -/
def implItem (nested : Nested) (start attributes : List SyntaxTree) : Reader SyntaxTree := do
  let seen ← visibility
  let preset ← keyword? "default"
  let unsafety ← keyword? "unsafe"
  let word ← keyword "impl"
  let parameters ←
    if ← peek Ahead.implGenerics then generics nested else pure []
  let isConst := (← peek (Ahead.word "const")) ||
    ((← peek (Ahead.punct "?")) && (← peek (Ahead.second (Ahead.word "const"))))
  if isConst then
    let _ ← punct? "?"
    let _ ← keyword "const"
  let begin ← ahead
  let polarity ←
    if (← peek (Ahead.punct "!")) && !(← peek (Ahead.second (Ahead.group .brace))) then
      pure [← punct "!"]
    else pure []
  let first ← nested (.type true)
  let hasTrait ← peek (Ahead.word "for")
  let target ←
    if hasTrait then
      let link ← keyword "for"
      let self ← nested (.type true)
      pure [.node .implTrait (polarity ++ [first]), link, .node .selfType [self]]
    else if polarity.isEmpty then pure [.node .selfType [first]]
    else pure [.node .selfType [← verbatim begin]]
  let clause ← whereClause nested
  let body ← members nested (implMember nested)
  if !seen.isEmpty || isConst || (hasTrait && !first.hasKind .pathType) then verbatim start
  else
    return .node .implItem
      (attributes ++ preset ++ unsafety ++ [word] ++ parameters ++ target ++ clause ++ [body])

/-! ## Items -/

def itemStarts : List String := [
  "`fn`", "`extern`", "`use`", "`static`", "`const`", "`unsafe`", "`mod`", "`type`", "`struct`",
  "`enum`", "`union`", "`trait`", "`auto`", "`impl`", "`default`", "`macro`"]

def externItem (nested : Nested) (attributes found : List SyntaxTree) : Reader SyntaxTree := do
  let rest := found.drop 1
  if Ahead.word "crate" rest then crateItem attributes
  else if Ahead.group .brace rest then foreignItem nested attributes
  else if Ahead.literalOf .string rest then
    if Ahead.group .brace (rest.drop 1) then foreignItem nested attributes
    else
      let _ ← visibility
      let _ ← keyword "extern"
      let _ ← stringLiteral
      expected ["curly braces"]
  else
    let _ ← visibility
    let _ ← keyword "extern"
    expected ["`crate`", "curly braces", "string literal"]

def unsafeItem (nested : Nested) (start attributes found : List SyntaxTree) :
    Reader SyntaxTree := do
  let rest := found.drop 1
  if Ahead.word "trait" rest ||
      (Ahead.word "auto" rest && Ahead.second (Ahead.word "trait") rest) then
    traitItem nested attributes
  else if Ahead.word "impl" rest then implItem nested start attributes
  else if Ahead.word "extern" rest then foreignItem nested attributes
  else if Ahead.word "mod" rest then moduleItem nested attributes
  else
    let _ ← visibility
    let _ ← keyword "unsafe"
    expected (if Ahead.word "auto" rest then ["`trait`", "`impl`", "`extern`", "`mod`"]
      else ["`trait`", "`auto`", "`impl`", "`extern`", "`mod`"])

def item (nested : Nested) : Reader SyntaxTree := do
  let start ← ahead
  let attributes ← outerAttributes nested
  let (seen, found) ← lookAhead do
    let seen ← visibility
    return (seen, ← ahead)
  let word (text : String) : Bool := Ahead.word text found
  let next (test : List SyntaxTree → Bool) : Bool := Ahead.second test found
  if Ahead.signature false found then functionItem nested start attributes
  else if word "extern" then externItem nested attributes found
  else if word "use" then useItem nested start attributes true
  else if word "static" then staticItem nested start attributes
  else if word "const" then
    let seen ← visibility
    constantItem nested start (attributes ++ seen) true
  else if word "unsafe" then unsafeItem nested start attributes found
  else if word "mod" then moduleItem nested attributes
  else if word "type" then
    let seen ← visibility
    let found ← typeAlias nested .beforeEquals
    if found.hasType && !found.hasBounds then
      return .node .otherItem (attributes ++ seen ++ found.parts)
    else verbatim start
  else if word "struct" || word "enum" || (word "union" && next Ahead.name) then
    let seen ← visibility
    dataItem nested (attributes ++ seen)
  else if word "trait" || (word "auto" && next (Ahead.word "trait")) then
    traitItem nested attributes
  else if word "impl" || (word "default" && !next (Ahead.punct "!")) then
    implItem nested start attributes
  else if word "macro" then macroDefinition start
  else if seen.isEmpty && Ahead.macroPath found then macroItem attributes
  else
    let _ ← visibility
    expected (orMacroCall itemStarts seen.isEmpty)

def deriveItem (nested : Nested) : Reader SyntaxTree := do
  let attributes ← outerAttributes nested
  let seen ← visibility
  dataItem nested (attributes ++ seen)

/-- Reads a file: its own attributes and its items. -/
def file (nested : Nested) : Reader SyntaxTree := do
  let attributes ← innerAttributes nested
  return .node .tokens (attributes ++ (← manyUntil isEmpty (nested .item)))

end Reader

end Wiring.Grammar
