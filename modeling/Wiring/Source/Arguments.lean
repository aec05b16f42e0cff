import Wiring.Declaration.Verb
import Wiring.Grammar.Parse
import Wiring.Grammar.View
import Wiring.Grammar.Text

/-!
The arguments of declaration attributes: those of modules and those of services.
-/

set_option autoImplicit false

namespace Wiring.Source

open Wiring.Grammar
open Wiring.Grammar.Reader

/-! ## Lists of named arguments -/

/-- Reads the path that names an argument. Keywords are names here. -/
def argumentPath : Reader SyntaxTree := do
  let root ← punct? "::"
  if !(← peek Ahead.anyWord) then
    if ← isEmpty then refuse .nestedMissing
    else if ← peek Ahead.literal then refuse .nestedLiteral
    else refuse .nestedToken
  else
    let first := SyntaxTree.node .segment [← anyWord]
    return .node .path (root ++ [first] ++ (← loop ((← ahead).length + 1) []))
where
  loop : Nat → List SyntaxTree → Reader (List SyntaxTree)
    | 0, done => return done
    | fuel + 1, done => do
        if ← peek (Ahead.punct "::") then
          let separator ← punct "::"
          loop fuel (done ++ [separator, .node .segment [← anyWord]])
        else return done

/-- Reads arguments one after the other; each is handled with what has been gathered so far. -/
def argumentList {σ : Type} (handle : SyntaxTree → σ → Reader σ) (gathered : σ) : Reader σ := do
  loop ((← ahead).length + 1) gathered
where
  loop : Nat → σ → Reader σ
    | 0, gathered => return gathered
    | fuel + 1, gathered => do
        let path ← argumentPath
        let gathered ← handle path gathered
        if ← isEmpty then return gathered
        else
          let _ ← punct ","
          if ← isEmpty then return gathered else loop fuel gathered

def refuseArgument {α : Type} (path : SyntaxTree) (text : String) : Reader α :=
  refuseAt ((path.segments.head?.map SyntaxTree.line).getD 1) (.rule text)

def valueSign : Reader Unit := do
  let _ ← punct "="
  return ()

def stringValueOf : Reader (String × Nat) := do
  let line ← lineAhead
  let tree ← stringLiteral
  return ((stringValue (tree.text?.getD "")).1, line)

def truthValue : Reader Bool := do
  if ← peek (Ahead.word "true") then
    let _ ← anyWord
    return true
  else if ← peek (Ahead.word "false") then
    let _ ← anyWord
    return false
  else expected ["boolean literal"]

/-- Reads a flag: alone it is set, and a value may say otherwise. -/
def flagValue : Reader Bool := do
  if ← peek (Ahead.punct "=") then
    valueSign
    truthValue
  else return true

def verbValue : Reader Verb := do
  valueSign
  let (text, line) ← stringValueOf
  match Verb.ofText? text with
  | some verb => return verb
  | none => refuseAt line (.rule (Verb.invalidText text))

def pathList : Reader (List SyntaxTree) := do
  let (paths, _, _) ← group .parenthesis
    (argumentList (fun path paths => return paths ++ [path]) [])
  return paths

def integerLimit : Nat :=
  Nat.pow 2 31

/-- Reads an integer of thirty-two bits. The sign is no part of the literal, so the literal alone
has to fit. -/
def integerValue (nested : Nested) : Reader Int := do
  valueSign
  let line ← lineAhead
  let value ← nested (.expr true)
  let (isNegative, literal) :=
    match value.bare with
    | .node .unaryExpr [sign, inner] => if sign.isPunct "-" then (true, inner) else (false, value)
    | _ => (false, value)
  match literal.bare with
  | .node .literalExpr [.token _ text literalLine _] =>
      match integerLiteral? text with
      | some found =>
          if found.value < integerLimit then
            return (if isNegative then -(found.value : Int) else found.value)
          else refuseAt literalLine .numberTooLarge
      | none => refuseAt line (.rule "expected an integer")
  | _ => refuseAt line (.rule "expected an integer")

/-! ## Arguments of modules -/

inductive ReferenceArgument where
  | positional (value : SyntaxTree)
  | property (name : String) (value : SyntaxTree)

structure RawReference where
  path : SyntaxTree
  arguments : List ReferenceArgument

structure ModuleArguments where
  onlyRealm : Bool
  verb : Option Verb
  generateAttribute : Option Bool
  useMethod : Option String
  autoEquality : Bool
  configure : Bool
  features : List SyntaxTree
  featureOrder : Int
  handles : List SyntaxTree
  dependsOn : List RawReference

def ModuleArguments.none : ModuleArguments :=
  ⟨false, .none, .none, .none, false, false, [], 0, [], []⟩

/-- Reads an argument of a dependency: an expression, which a name may stand in front of. -/
def referenceArgument (nested : Nested) : Reader ReferenceArgument := do
  if (← peek Ahead.name) && (← peek (Ahead.second (Ahead.punct "="))) &&
      !(← peek (Ahead.second (Ahead.punct "=="))) then
    let name ← Reader.name
    let _ ← punct "="
    return .property (name.text?.getD "") (← nested (.expr true))
  else return .positional (← nested (.expr true))

def referenceArguments (nested : Nested) : Reader (List ReferenceArgument) := do
  loop ((← ahead).length + 1) []
where
  loop : Nat → List ReferenceArgument → Reader (List ReferenceArgument)
    | 0, done => return done
    | fuel + 1, done => do
        if ← isEmpty then return done
        else
          let done := done ++ [← referenceArgument nested]
          if ← isEmpty then return done
          else
            let _ ← punct ","
            loop fuel done

def rawReference (nested : Nested) (path : SyntaxTree) : Reader RawReference := do
  if ← peek (Ahead.group .parenthesis) then
    let (arguments, _, _) ← group .parenthesis (referenceArguments nested)
    return ⟨path, arguments⟩
  else return ⟨path, []⟩

/-- The name of an argument: one segment. -/
def argumentName (path : SyntaxTree) : Reader String := do
  match path.lonePathName? with
  | some name => return name
  | none => refuseArgument path "expected an argument name"

def isName (text : String) : Bool :=
  (parseText nameForm text).isOk

/-- Reads one argument of a module. A later argument of one name replaces an earlier one, and
dependencies add up. -/
def moduleArgument (nested : Nested) (path : SyntaxTree) (gathered : ModuleArguments) :
    Reader ModuleArguments := do
  let name ← argumentName path
  if name == "only_realm" then return { gathered with onlyRealm := ← flagValue }
  else if name == "registration" then return { gathered with verb := some (← verbValue) }
  else if name == "generate_attribute" then
    return { gathered with generateAttribute := some (← flagValue) }
  else if name == "use_method" then
    valueSign
    let (method, line) ← stringValueOf
    if isName method then return { gathered with useMethod := some method }
    else refuseAt line (.rule ("use_method '" ++ method ++ "' is not a valid method name"))
  else if name == "auto_equality" then return { gathered with autoEquality := ← flagValue }
  else if name == "configure" then return { gathered with configure := ← flagValue }
  else if name == "features" then return { gathered with features := ← pathList }
  else if name == "handles" then return { gathered with handles := ← pathList }
  else if name == "feature_order" then
    return { gathered with featureOrder := ← integerValue nested }
  else if name == "depends_on" then
    let (references, _, _) ← group .parenthesis
      (argumentList (fun path done => return done ++ [← rawReference nested path]) [])
    return { gathered with dependsOn := gathered.dependsOn ++ references }
  else refuseArgument path ("unknown module argument '" ++ name ++ "'")

/-! ## Arguments of services -/

structure ServiceArguments where
  service : Option SyntaxTree
  realm : Option SyntaxTree
  key : Option String
  verb : Option Verb
  crossWire : Bool
  factory : Option SyntaxTree

def ServiceArguments.none : ServiceArguments :=
  ⟨.none, .none, .none, .none, false, .none⟩

/-- Reads one argument of a service. A later argument of one name replaces an earlier one. -/
def serviceArgument (nested : Nested) (path : SyntaxTree) (gathered : ServiceArguments) :
    Reader ServiceArguments := do
  let name ← argumentName path
  if name == "service" then
    valueSign
    let line ← lineAhead
    let type ← nested (.type true)
    match type.typePath? with
    | some service => return { gathered with service := some service }
    | none => refuseAt line (.rule "service must name a type or trait")
  else if name == "realm" then
    valueSign
    return { gathered with realm := some (← pathForm nested) }
  else if name == "key" then
    valueSign
    return { gathered with key := some (← stringValueOf).1 }
  else if name == "registration" then return { gathered with verb := some (← verbValue) }
  else if name == "cross_wire" then return { gathered with crossWire := ← flagValue }
  else if name == "factory" then
    valueSign
    return { gathered with factory := some (← pathForm nested) }
  else refuseArgument path ("unknown service argument '" ++ name ++ "'")

/-! ## Whole attributes -/

def attributeShape (item path : SyntaxTree) : String :=
  let sign := if item.isInnerAttribute then "#!" else "#"
  let root := if path.isAbsolutePath then "::" else ""
  sign ++ "[" ++ root ++ "::".intercalate path.pathNames ++ "(...)]"

def parseArguments {α : Type} (item : SyntaxTree) (reader : Nested → Reader α) :
    Except SyntaxError α :=
  match item.attributeBody? with
  | some (.node .metaList [_, .group _ body _ closeLine]) =>
      parseTokensIn reader ⟨closeLine, none⟩ body
  | some (.node .metaValue (path :: equals :: _)) =>
      .error ⟨.argumentsNotListed (attributeShape item path), equals.line, false⟩
  | some (.node .metaPath [path]) =>
      .error ⟨.argumentsMissing (attributeShape item path), path.line, false⟩
  | _ => .error ⟨.expected [], item.line, false⟩

/-- Reads the named arguments of an attribute; there may be none. -/
def parseArgumentList {σ : Type} (item : SyntaxTree) (handle : Nested → SyntaxTree → σ → Reader σ)
    (start : σ) : Except SyntaxError σ :=
  parseArguments item fun nested => do
    if ← isEmpty then return start else argumentList (handle nested) start

def moduleArguments (item : SyntaxTree) : Except SyntaxError ModuleArguments :=
  match item.attributeBody? with
  | some (.node .metaPath _) => .ok .none
  | _ => parseArgumentList item moduleArgument .none

def serviceArguments (item : SyntaxTree) : Except SyntaxError ServiceArguments :=
  match item.attributeBody? with
  | some (.node .metaPath _) => .ok .none
  | _ => parseArgumentList item serviceArgument .none

/-! ## Open generic services -/

/-- The number of parameters that a service type leaves open. All its arguments have to be
underscores. -/
def openArity (path : SyntaxTree) : Except SyntaxError Nat :=
  match path.lastArguments? with
  | none => .ok 0
  | some arguments =>
      if arguments.hasKind .genericArguments then
        let listed := arguments.genericArgumentList
        let closed? := listed.find? fun part =>
          match part.argumentType? with
          | some type => !type.hasKind .inferredType
          | none => true
        match closed? with
        | some part =>
            .error ⟨.rule "generic arguments of a service type must be `_`", part.line, false⟩
        | none => .ok listed.length
      else .error ⟨.rule "unsupported generic arguments", arguments.line, false⟩

end Wiring.Source
