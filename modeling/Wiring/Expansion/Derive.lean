import Wiring.Expansion.Declare

/-!
Derived code: a context hands out copies of its fields by their types, and what is built from a
context takes each of its fields from there.
-/

set_option autoImplicit false

namespace Wiring.Expansion

open Wiring.Grammar
open Wiring.Grammar.Reader
open Wiring.Source (argumentList refuseArgument valueSign parseArgumentList)

/-! ## Parameters of an implementation -/

/-- Generic parameters as an implementation declares them: without defaults. -/
def declaredParameters (item : SyntaxTree) : List SyntaxTree :=
  match item.child? .generics with
  | some (.node _ parts) =>
      [.node .generics (parts.map fun
        | .node .typeParameter inner => .node .typeParameter (inner.filter (!isDefault ·))
        | .node .constParameter inner => .node .constParameter (inner.filter (!isDefault ·))
        | part => part)]
  | _ => []
where
  isDefault (part : SyntaxTree) : Bool :=
    part.hasKind .parameterDefault

/-- Generic parameters as a type takes them: their names alone. -/
def usedParameters (item : SyntaxTree) : List SyntaxTree :=
  match item.child? .generics with
  | some (.node _ parts) =>
      [.node .generics (parts.map fun
        | .node .typeParameter inner => .node .typeParameter (inner.filter (·.hasKind .name))
        | .node .constParameter inner => .node .constParameter (inner.filter (·.hasKind .name))
        | .node .lifetimeParameter inner => .node .lifetimeParameter (inner.filter isLifetime)
        | part => part)]
  | _ => []
where
  isLifetime : SyntaxTree → Bool
    | .token .lifetime _ _ _ => true
    | _ => false

def clauseOf (item : SyntaxTree) : List SyntaxTree :=
  (item.child? .whereClause).toList

def nameCode (item : SyntaxTree) : List SyntaxTree :=
  item.nameToken?.toList

def fromContext (item : SyntaxTree) (context target body : List SyntaxTree) : List SyntaxTree :=
  code "impl" ++ declaredParameters item ++ code "crate :: FromRef <" ++ context ++
    code "> for" ++ target ++ clauseOf item ++
    [inBraces (code "fn from_ref" ++ [inParentheses (code "ctx : &" ++ context)] ++
      code "-> Self" ++ [inBraces body])]

def typedFields (item : SyntaxTree) : List (SyntaxTree × SyntaxTree) :=
  item.fieldsWithNames.filterMap fun field => field.fieldType?.map fun type => (field, type)

def namedFieldsOf (derived : String) (item : SyntaxTree) :
    Except String (List (SyntaxTree × SyntaxTree)) :=
  if !item.hasKind .structItem then .error (derived ++ " can only be derived for structs")
  else if (item.child? .namedFields).isNone then
    .error (derived ++ " can only be derived for structs with named fields")
  else .ok (typedFields item)

/-! ## Contexts -/

def hasRepeated : List SyntaxTree → Bool
  | [] => false
  | type :: rest => rest.any (SyntaxTree.sameCode type) || hasRepeated rest

/-- The fields of a context; their types have to differ. -/
def contextFields (item : SyntaxTree) : Except String (List (SyntaxTree × SyntaxTree)) := do
  let fields ← namedFieldsOf "Context" item
  if hasRepeated (fields.map (·.2)) then
    throw "Context fields must have distinct types; wrap one in a newtype"
  else return fields

def takeField (item : SyntaxTree) (field : SyntaxTree × SyntaxTree) : List SyntaxTree :=
  fromContext item (nameCode item ++ usedParameters item) [field.2]
    (code ":: std :: clone :: Clone :: clone" ++
      [inParentheses (code "& ctx ." ++ nameCode field.1)])

def expandContext (tokens : List SyntaxTree) : List SyntaxTree :=
  withItem tokens deriveForm fun item =>
    match contextFields item with
    | .error mistake => compileError mistake
    | .ok fields => fields.flatMap (takeField item)

/-! ## What is built from a context -/

def quotedType : Reader SyntaxTree := do
  let line ← lineAhead
  let (text, suffix) := stringValue (((← stringLiteral).text?).getD "")
  match parseText typeForm text with
  | .error error => throw { error with line }
  | .ok type =>
      if suffix.isEmpty then return type else refuseAt line (.stringSuffix suffix)

/-- Reads the argument that names a context; the last one counts. -/
def contextArgument (nested : Nested) (path : SyntaxTree) (_ : Option SyntaxTree) :
    Reader (Option SyntaxTree) := do
  if path.lonePathName? == some "Context" then
    valueSign
    if ← peek (Ahead.literalOf .string) then return some (← quotedType)
    else return some (← typeForm nested)
  else refuseArgument path "expected `Context = Type`"

def defaultArgument (_ : Nested) (path : SyntaxTree) (_ : Bool) : Reader Bool := do
  if path.lonePathName? == some "default" then return true
  else refuseArgument path "expected `default`"

def readAttributes {σ : Type} (handle : Nested → SyntaxTree → σ → Reader σ) (start : σ)
    (attributes : List SyntaxTree) : Except String σ :=
  (attributes.filter fun marker =>
    (marker.attributePath?.bind SyntaxTree.lonePathName?) == some "from_context").foldlM
    (fun found marker =>
      (parseArgumentList marker handle found).mapError SyntaxError.message) start

def contextOf (item : SyntaxTree) : Except String (List SyntaxTree) := do
  match ← readAttributes contextArgument none item.attributes with
  | some type => return [type]
  | none => return code "Context"

def buildField (context : List SyntaxTree) (field : SyntaxTree × SyntaxTree) :
    Except String (List SyntaxTree) := do
  let front := nameCode field.1 ++ code ": <" ++ [field.2]
  if ← readAttributes defaultArgument false field.1.attributes then
    return front ++ code "as :: std :: default :: Default > :: default" ++ [inParentheses []]
  else
    return front ++ code "as crate :: FromRef <" ++ context ++ code ">> :: from_ref" ++
      [inParentheses (code "ctx")]

def buildItem (item : SyntaxTree) : Except String (List SyntaxTree) := do
  let context ← contextOf item
  let fields ← namedFieldsOf "FromContext" item
  let values ← fields.mapM (buildField context)
  return fromContext item context (nameCode item ++ usedParameters item)
    (code "Self" ++ [inBraces (withCommas values)])

def expandFromContext (tokens : List SyntaxTree) : List SyntaxTree :=
  withItem tokens deriveForm fun item =>
    match buildItem item with
    | .error mistake => compileError mistake
    | .ok built => built

end Wiring.Expansion
