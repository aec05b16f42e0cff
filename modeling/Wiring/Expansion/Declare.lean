import Wiring.Declaration.Lifetime
import Wiring.Grammar.Code
import Wiring.Source.Arguments

/-!
Declaration attributes where they stand in a program. They check their arguments and hand the item
back; a mistake is put in front of the item as an error for the compiler.
-/

set_option autoImplicit false

namespace Wiring.Expansion

open Wiring.Grammar
open Wiring.Grammar.Reader
open Wiring.Source (truthValue isName parseArguments)

def compileError (message : String) : List SyntaxTree :=
  code ":: core :: compile_error !" ++ [inBraces [literalCode message]]

/-! ## Arguments -/

inductive ArgumentValue where
  | flag
  | assigned (tokens : List SyntaxTree)
  | listed (tokens : List SyntaxTree)

structure Argument where
  name : String
  value : ArgumentValue

def isMark (text : String) : SyntaxTree → Bool
  | .token .punct found _ _ => found == text
  | .token .joined found _ _ => found == text
  | _ => false

def valueTokens : Reader (List SyntaxTree) := do
  loop ((← ahead).length + 1) 0 []
where
  loop : Nat → Nat → List SyntaxTree → Reader (List SyntaxTree)
    | 0, _, done => return done
    | fuel + 1, depth, done => do
        if depth == 0 && (← peek (Ahead.punct ",")) then return done
        else
          match ← next? with
          | none => return done
          | some token =>
              let depth :=
                if isMark "<" token then depth + 1
                else if isMark ">" token then depth - 1
                else depth
              loop fuel depth (done ++ [token])

def argument : Reader Argument := do
  let name := ((← name).text?).getD ""
  if ← peek (Ahead.punct "=") then
    let _ ← punct "="
    let tokens ← valueTokens
    if tokens.isEmpty then refuse (.rule ("expected a value for `" ++ name ++ "`"))
    else return ⟨name, .assigned tokens⟩
  else if ← peek (Ahead.group .parenthesis) then
    let (tokens, _, _) ← group .parenthesis allTokens
    return ⟨name, .listed tokens⟩
  else return ⟨name, .flag⟩

/-- Reads arguments with commas between them; a comma may end them. -/
def arguments : Reader (List Argument) := do
  loop ((← ahead).length + 1) []
where
  loop : Nat → List Argument → Reader (List Argument)
    | 0, done => return done
    | fuel + 1, done => do
        if ← isEmpty then return done
        else
          let done := done ++ [← argument]
          if ← isEmpty then return done
          else
            let _ ← punct ","
            loop fuel done

/-- Reads some tokens to their end. -/
def readAll {α : Type} (reader : Reader α) (tokens : List SyntaxTree) : Except String α :=
  (run reader wholeText tokens).mapError SyntaxError.message

def argumentsOf (tokens : List SyntaxTree) : Except String (List Argument) :=
  readAll arguments tokens

/-! ## Values

Whatever stands in a value is read with what the arguments as a whole may nest. -/

def assigned {α : Type} (argument : Argument) (reader : Reader α) : Except String α :=
  match argument.value with
  | .assigned tokens => readAll reader tokens
  | _ => .error ("expected `" ++ argument.name ++ " = ...`")

def checkAssigned {α : Type} (argument : Argument) (reader : Reader α) : Except String Unit :=
  (assigned argument reader).map fun _ => ()

def textForm : Reader String := do
  return (stringValue (((← stringLiteral).text?).getD "")).1

def checkVerb (argument : Argument) : Except String Unit := do
  let text ← assigned argument textForm
  if (Verb.ofText? text).isSome then return ()
  else throw "expected one of \"add\", \"try\", \"try_enumerable\", \"replace\""

def checkFlag (argument : Argument) : Except String Unit :=
  match argument.value with
  | .flag => .ok ()
  | _ => .error ("`" ++ argument.name ++ "` takes no value")

def checkTruth (argument : Argument) : Except String Unit :=
  match argument.value with
  | .flag => .ok ()
  | _ => checkAssigned argument truthValue

def pathsForm (nested : Nested) : Reader (List SyntaxTree) :=
  commaList (pathForm nested)

def checkTypes (nested : Nested) (argument : Argument) : Except String Unit :=
  match argument.value with
  | .listed tokens => (readAll (pathsForm nested) tokens).map fun _ => ()
  | _ => .error ("expected `" ++ argument.name ++ "(Type, ...)`")

def dependency (nested : Nested) : Reader SyntaxTree := do
  let path ← pathForm nested
  if ← peek (Ahead.group .parenthesis) then
    let _ ← groupOf .parenthesis (commaList (exprForm nested))
    return path
  else return path

def checkDependencies (nested : Nested) (argument : Argument) : Except String Unit :=
  match argument.value with
  | .listed tokens => (readAll (commaList (dependency nested)) tokens).map fun _ => ()
  | _ => .error "expected `depends_on(Module, ...)`"

/-! ## Declarations -/

def checkModuleArgument (nested : Nested) (argument : Argument) : Except String Unit :=
  match argument.name with
  | "only_realm" | "auto_equality" | "configure" => checkFlag argument
  | "generate_attribute" => checkTruth argument
  | "registration" => checkVerb argument
  | "use_method" => do
      let text ← assigned argument textForm
      if isName text then return () else throw "`use_method` must be a method name"
  | "feature_order" => checkAssigned argument (exprForm nested)
  | "features" | "handles" => checkTypes nested argument
  | "depends_on" => checkDependencies nested argument
  | name => .error ("unknown module argument `" ++ name ++ "`")

def checkServiceArgument (nested : Nested) (argument : Argument) : Except String Unit :=
  match argument.name with
  | "service" => checkAssigned argument (typeForm nested)
  | "realm" | "factory" => checkAssigned argument (pathForm nested)
  | "key" => checkAssigned argument textForm
  | "registration" => checkVerb argument
  | "cross_wire" => checkFlag argument
  | name => .error ("unknown service argument `" ++ name ++ "`")

/-- Checks every argument; the first mistake counts. -/
def checkAll (check : Argument → Except String Unit) : List Argument → Except String Unit
  | [] => .ok ()
  | argument :: rest =>
      match check argument with
      | .error mistake => .error mistake
      | .ok _ => checkAll check rest

def derivesEquality (item : SyntaxTree) : Bool :=
  item.attributes.any fun marker =>
    (marker.attributePath?.bind SyntaxTree.lonePathName?) == some "derive" &&
      match parseArguments marker pathsForm with
      | .ok paths => paths.any fun path => path.pathNames.getLast? == some "PartialEq"
      | .error _ => false

def deriveEquality : List SyntaxTree :=
  code "#" ++ [inBrackets (code "derive" ++ [inParentheses (code "PartialEq")])]

/-- What is checked of a module: its arguments, and what it stands on. The answer says whether
equality is asked for. -/
def checkModule (arguments : List SyntaxTree) (item : SyntaxTree) : Except String Bool := do
  let written ← argumentsOf arguments
  if item.hasKind .structItem then
    checkAll (checkModuleArgument (nestedFor arguments)) written
    return written.any fun argument => argument.name == "auto_equality"
  else throw "#[module] can only be applied to structs"

/-- What is checked of a service: its arguments, and what it stands on. -/
def checkService (lifetime : Lifetime) (arguments : List SyntaxTree) (item : SyntaxTree) :
    Except String Unit := do
  let written ← argumentsOf arguments
  if item.hasKind .structItem || item.hasKind .enumItem then
    checkAll (checkServiceArgument (nestedFor arguments)) written
  else throw ("#[" ++ lifetime.attributeName ++ "] can only be applied to structs and enums")

def withItem (tokens : List SyntaxTree) (form : Nested → Reader SyntaxTree)
    (expand : SyntaxTree → List SyntaxTree) : List SyntaxTree :=
  match parseTokens form tokens with
  | .error error => compileError error.message
  | .ok item => expand item

def expandModule (arguments item : List SyntaxTree) : List SyntaxTree :=
  withItem item itemForm fun item =>
    match checkModule arguments item with
    | .error mistake => compileError mistake ++ [item]
    | .ok asked =>
        if asked && !derivesEquality item then deriveEquality ++ [item] else [item]

def expandService (lifetime : Lifetime) (arguments item : List SyntaxTree) : List SyntaxTree :=
  withItem item itemForm fun item =>
    match checkService lifetime arguments item with
    | .error mistake => compileError mistake ++ [item]
    | .ok _ => [item]

end Wiring.Expansion
