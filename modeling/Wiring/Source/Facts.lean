import Wiring.Grammar.Text
import Wiring.Source.Attribute
import Wiring.Source.Scope

/-!
What a source file declares, read off its tree. Paths stay as they are written; each fact carries
the scope that it stands in.
-/

set_option autoImplicit false

namespace Wiring.Source

open Wiring.Grammar

structure FieldFacts where
  name : String
  isPublic : Bool
  type : SyntaxTree

structure DeclaredItem where
  scope : Nat
  name : String
  line : Nat
  typeParameters : Nat
  fields : List FieldFacts
  attributes : List FoundAttribute

structure TraitImpl where
  scope : Nat
  selfPath : SyntaxTree
  traitPath : SyntaxTree

structure FunctionFacts where
  scope : Nat
  owner : Option SyntaxTree
  name : String
  line : Nat
  hasReceiver : Bool
  returnsSelf : Bool
  inputs : List (String × SyntaxTree)
  output : Option SyntaxTree

structure ModuleCall where
  scope : Nat
  module : SyntaxTree

structure Misplaced where
  line : Nat
  name : String

/-- What a source file declares. The first scope is the file itself. -/
structure FileFacts where
  path : String
  scopes : List Scope
  items : List DeclaredItem
  traitImpls : List TraitImpl
  functions : List FunctionFacts
  misplaced : List Misplaced
  declaredModules : List String
  hasMain : Bool
  moduleCalls : List ModuleCall

namespace FileFacts

def empty (path space : String) : FileFacts :=
  ⟨path, [.of space], [], [], [], [], [], false, []⟩

def scope (facts : FileFacts) (index : Nat) : Scope :=
  (facts.scopes[index]?).getD (.of "")

def noteMisplaced (facts : FileFacts) (attributes : List SyntaxTree) : FileFacts :=
  let found := (foundAttributes attributes).map fun entry => ⟨entry.line, entry.kind.name⟩
  { facts with misplaced := facts.misplaced ++ found }

def declare (facts : FileFacts) (scope : Nat) (item : SyntaxTree) (fields : List FieldFacts) :
    FileFacts :=
  match foundAttributes item.attributes with
  | [] => facts
  | attributes =>
      let declared : DeclaredItem :=
        ⟨scope, item.itemName, item.nameLine, item.typeParameterCount, fields, attributes⟩
      { facts with items := facts.items ++ [declared] }

def fieldsOf (item : SyntaxTree) : List FieldFacts :=
  item.fieldsWithNames.filterMap fun field =>
    field.fieldType?.map fun type => ⟨field.itemName, field.isPublic, type⟩

/-- The parameters of a function with their names; what binds no name is numbered by its place. -/
def inputsFrom (position : Nat) : List SyntaxTree → List (String × SyntaxTree)
  | [] => []
  | part :: rest =>
      let more := inputsFrom (position + 1) rest
      if part.hasKind .receiver then more
      else
        match part.fieldType? with
        | some type => (part.boundName?.getD ("arg" ++ toString position), type) :: more
        | none => more

/-- Whether a return type is the type itself: `Self`, or a path that ends like the owner. -/
def isOwnType (owner : Option SyntaxTree) (output : SyntaxTree) : Bool :=
  match output.typePath? with
  | none => false
  | some path =>
      path.lonePathName? == some "Self" ||
        (match owner.bind (·.pathNames.getLast?), path.pathNames.getLast? with
         | some last, some found => last == found
         | _, _ => false)

def functionFacts (scope : Nat) (owner : Option SyntaxTree) (signature : SyntaxTree) :
    FunctionFacts :=
  let inputs := signature.signatureInputs
  ⟨scope, owner, signature.itemName, signature.nameLine, inputs.any (SyntaxTree.hasKind .receiver),
    signature.outputType?.any (isOwnType owner), inputsFrom 0 inputs, signature.outputType?⟩

def noteFunction (facts : FileFacts) (scope : Nat) (owner : Option SyntaxTree) (item : SyntaxTree) :
    FileFacts :=
  match item.child? .signature with
  | some signature =>
      { facts with functions := facts.functions ++ [functionFacts scope owner signature] }
  | none => facts

/-- Notes an implementation: that of a trait, or the functions of a type. -/
def noteImpl (facts : FileFacts) (scope : Nat) (item : SyntaxTree) : FileFacts :=
  let facts := facts.noteMisplaced item.allAttributes
  let target? := (item.child? .selfType).bind fun target => target.children.head?
  let self? := target?.bind SyntaxTree.typePath?
  match self? with
  | none => facts
  | some self =>
      match item.child? .implTrait with
      | some target =>
          match (target.children.getLast?).bind SyntaxTree.typePath? with
          | some path => { facts with traitImpls := facts.traitImpls ++ [⟨scope, self, path⟩] }
          | none => facts
      | none =>
          let methods := (item.groupBody?.getD []).filter (SyntaxTree.hasKind .method)
          methods.foldl (fun facts method =>
            (facts.noteMisplaced method.allAttributes).noteFunction scope (some self) method) facts

/-- Notes a function item; one called `main` in the file itself makes the file a program. -/
def noteFunctionItem (facts : FileFacts) (scope : Nat) (item : SyntaxTree) : FileFacts :=
  let facts := facts.noteMisplaced item.allAttributes
  let isMain := scope == 0 &&
    ((item.child? .signature).map SyntaxTree.itemName) == some "main"
  let facts := { facts with hasMain := facts.hasMain || isMain }
  facts.noteFunction scope none item

/-- The module that an expression constructs: a value named by its type, a struct, or a call of
a function of the type. -/
def constructed? : SyntaxTree → Option SyntaxTree
  | .node .parenExpr [.group _ [inner] _ _] => constructed? inner
  | .node .structExpr parts => parts.findSome? SyntaxTree.exprPath?
  | .node .callExpr parts =>
      match (parts.findSome? SyntaxTree.exprPath?) with
      | some path =>
          let names := path.children.filter (!SyntaxTree.isPunct "::" ·)
          if 1 < names.length then
            let root := if path.isAbsolutePath then path.children.take 1 else []
            let kept := path.children.drop root.length
            some (.node .path (root ++ kept.take (kept.length - 2)))
          else none
      | none => none
  | tree => tree.exprPath?

/-- The module that a call adds: its type argument, else what its first argument constructs. -/
def addedModule? (call : SyntaxTree) : Option SyntaxTree :=
  let turbofish? := (call.child? .genericArguments).bind fun arguments =>
    arguments.genericArgumentList.findSome? fun part => part.argumentType?.bind SyntaxTree.typePath?
  turbofish?.or ((call.groupBody?.bind List.head?).bind constructed?)

def noteCall (facts : FileFacts) (scope : Nat) (call : SyntaxTree) : FileFacts :=
  if call.itemName == "add_module" then
    match addedModule? call with
    | some module => { facts with moduleCalls := facts.moduleCalls ++ [⟨scope, module⟩] }
    | none => facts
  else facts

def openScope (facts : FileFacts) (space : String) : FileFacts :=
  { facts with scopes := facts.scopes ++ [.of space] }

def moduleSpace (facts : FileFacts) (scope : Nat) (item : SyntaxTree) : String :=
  (facts.scope scope).space ++ "::" ++ item.itemName

def noteUse (facts : FileFacts) (scope : Nat) (item : SyntaxTree) : FileFacts :=
  match UseTree.ofItem? item with
  | some tree => { facts with scopes := facts.scopes.modify scope (·.addUse tree) }
  | none => facts

mutual

def visit (scope : Nat) : SyntaxTree → FileFacts → FileFacts
  | .node .moduleItem parts, facts =>
      let item := SyntaxTree.node .moduleItem parts
      let space := facts.moduleSpace scope item
      if item.groupBody?.isNone then
        { facts with declaredModules := facts.declaredModules ++ [space] }
      else visitAll facts.scopes.length parts (facts.openScope space)
  | .node .useItem parts, facts => facts.noteUse scope (.node .useItem parts)
  | .node .structItem parts, facts =>
      let item := SyntaxTree.node .structItem parts
      visitAll scope parts (facts.declare scope item (fieldsOf item))
  | .node .enumItem parts, facts =>
      visitAll scope parts (facts.declare scope (.node .enumItem parts) [])
  | .node .implItem parts, facts =>
      visitAll scope parts (facts.noteImpl scope (.node .implItem parts))
  | .node .functionItem parts, facts =>
      visitAll scope parts (facts.noteFunctionItem scope (.node .functionItem parts))
  | .node .traitItem parts, facts =>
      visitAll scope parts (facts.noteMisplaced (SyntaxTree.node .traitItem parts).allAttributes)
  | .node .methodCallExpr parts, facts =>
      visitAll scope parts (facts.noteCall scope (.node .methodCallExpr parts))
  | .node _ parts, facts => visitAll scope parts facts
  | .group _ body _ _, facts => visitAll scope body facts
  | .token _ _ _ _, facts => facts

def visitAll (scope : Nat) : List SyntaxTree → FileFacts → FileFacts
  | [], facts => facts
  | tree :: rest, facts => visitAll scope rest (visit scope tree facts)

end

def collect (path space : String) (file : SyntaxTree) : FileFacts :=
  visit 0 file (empty path space)

end FileFacts

end Wiring.Source
