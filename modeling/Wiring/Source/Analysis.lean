import Wiring.Declaration.Module
import Wiring.Declaration.Service
import Wiring.Diagnostic
import Wiring.Settings.Basic
import Wiring.Source.Arguments
import Wiring.Source.Facts
import Wiring.Source.Qualified

/-!
Descriptors and diagnostics from the facts of all files. Implementations, constructors and
factories are looked up in every file.
-/

set_option autoImplicit false

namespace Wiring.Source

open Wiring.Grammar

/-! ## Tables -/

/-- What is looked up across files: the known namespaces, the traits of each type in the order of
discovery, and the functions by their paths with the scopes that they stand in. -/
structure Index where
  spaces : List String
  interfaces : List (String × TypeName)
  functions : List (String × FileFacts × FunctionFacts)

namespace Index

def spacesOf (file : FileFacts) : List String :=
  file.scopes.map (·.space) ++ file.declaredModules

def implEntry (spaces : List String) (file : FileFacts) (found : TraitImpl) :
    String × TypeName :=
  let scope := file.scope found.scope
  ((resolveType spaces scope found.selfPath).fullName, resolveType spaces scope found.traitPath)

/-- The path of a function: that of its owner or its namespace, and its name. -/
def functionPath (spaces : List String) (file : FileFacts) (found : FunctionFacts) : String :=
  let scope := file.scope found.scope
  let owner :=
    match found.owner with
    | some owner => (resolveType spaces scope owner).fullName
    | none => scope.space
  owner ++ "::" ++ found.name

def ofFiles (files : List FileFacts) : Index :=
  let spaces := files.flatMap spacesOf
  ⟨spaces, files.flatMap fun file => file.traitImpls.map (implEntry spaces file),
    files.flatMap fun file => file.functions.map fun found =>
      (functionPath spaces file found, file, found)⟩

/-- The traits of a type, each once, in the order of discovery. -/
def interfacesOf (index : Index) (type : String) : List TypeName :=
  ((index.interfaces.filter (·.1 == type)).map (·.2)).foldl
    (fun found trait => if found.contains trait then found else found ++ [trait]) []

def function? (index : Index) (path : String) : Option (FileFacts × FunctionFacts) :=
  (index.functions.find? (·.1 == path)).map (·.2)

def resolve (index : Index) (scope : Scope) (path : SyntaxTree) : TypeName :=
  resolveType index.spaces scope path

def text (index : Index) (scope : Scope) (type : SyntaxTree) : String :=
  typeText index.spaces scope type

end Index

def DeclaredItem.type (item : DeclaredItem) (file : FileFacts) : TypeName :=
  .of (file.scope item.scope).space item.name

def ofSyntax {α : Type} (path : String) : Except SyntaxError α → Except Failure α
  | .ok value => .ok value
  | .error error => .error (.malformed path error.line error.message)

/-! ## Modules -/

def reference (index : Index) (scope : Scope) (raw : RawReference) : ModuleReference :=
  ⟨index.resolve scope raw.path,
    raw.arguments.filterMap fun
      | .positional value => some value.text
      | .property _ _ => none,
    raw.arguments.filterMap fun
      | .property name value => some ⟨name, value.text⟩
      | .positional _ => none⟩

def constructorOf (index : Index) (id : String) : List Parameter :=
  match index.function? (id ++ "::new") with
  | some (file, found) =>
      if !found.hasReceiver && found.returnsSelf then
        found.inputs.map fun (name, type) =>
          ⟨name, index.text (file.scope found.scope) type⟩
      else []
  | none => []

def moduleOf (index : Index) (settings : Settings) (file : FileFacts) (item : DeclaredItem)
    (found : FoundAttribute) : Except Failure ModuleDescriptor := do
  if 0 < item.typeParameters then
    throw (.malformed file.path item.line ("module " ++ item.name ++ " cannot be generic"))
  let given ← ofSyntax file.path (moduleArguments found.tree)
  let scope := file.scope item.scope
  let base := ModuleDescriptor.ofType (item.type file) file.path
  let constructor := constructorOf index base.id
  let properties := (item.fields.filter fun field =>
    field.isPublic && !(constructor.any fun parameter => parameter.name == field.name)).map
      fun field => ⟨field.name, index.text scope field.type⟩
  return { base with
    line := found.line
    onlyRealm := given.onlyRealm
    verb := given.verb
    generateAttribute := given.generateAttribute.getD settings.generateAttribute
    useMethod := given.useMethod
    autoEquality := given.autoEquality
    configure := given.configure
    features := given.features.map (index.resolve scope)
    featureOrder := given.featureOrder
    handles := given.handles.map (index.resolve scope)
    references := given.dependsOn.map (reference index scope)
    constructor := constructor
    properties := properties }

def programModule (index : Index) (settings : Settings) (file : FileFacts) : ModuleDescriptor :=
  let types := file.moduleCalls.map fun call => index.resolve (file.scope call.scope) call.module
  { ModuleDescriptor.ofType (.of settings.rootNamespace "ProgramModule") file.path with
    autoGenerated := true
    additionalModules := types.foldl
      (fun found type => if found.contains type then found else found ++ [type]) [] }

/-! ## Factories -/

def sharedInner? (type : SyntaxTree) : Option SyntaxTree :=
  if type.hasKind .pathType || type.hasKind .qualifiedType then
    type.typePath?.bind fun path =>
      if path.pathNames.getLast? == some "Arc" then
        path.lastArguments?.bind fun arguments =>
          if arguments.hasKind .genericArguments then
            arguments.genericArgumentList.head?.bind SyntaxTree.argumentType?
          else none
      else none
  else none

/-- Where a factory gets the argument for a parameter from; a borrowed one it cannot get. -/
def factoryParameter (index : Index) (scope : Scope) (name : String) (type : SyntaxTree) :
    Except String FactoryParameter :=
  let unsupported := "parameter `" ++ name ++ "` has an unsupported type"
  if isContainerType type.text then .ok (.container name)
  else if type.hasKind .referenceType then
    .error ("parameter `" ++ name ++ "` borrows; take `Arc<T>` or an owned value")
  else
    match sharedInner? type with
    | some inner =>
        match inner.typePath? with
        | some path => .ok (.shared name (index.text scope inner) (index.resolve scope path))
        | none => .error unsupported
    | none =>
        match type.typePath? with
        | some path => .ok (.cloned name (index.text scope type) (index.resolve scope path))
        | none => .error unsupported

def factoryParameters (index : Index) (scope : Scope) :
    List (String × SyntaxTree) → Except String (List FactoryParameter)
  | [] => .ok []
  | (name, type) :: rest => do
      let first ← factoryParameter index scope name type
      let more ← factoryParameters index scope rest
      return first :: more

/-- Whether a return type reads as an instance or why there is none. -/
def returnsInstance (output : Option SyntaxTree) : Bool :=
  match output.bind SyntaxTree.typePath? with
  | none => false
  | some path =>
      path.pathNames.getLast? == some "Result" &&
        (match path.lastArguments? with
         | none => false
         | some arguments =>
             arguments.hasKind .genericArguments &&
               arguments.genericArgumentList.filterMap (fun part =>
                 (part.argumentType?.bind SyntaxTree.typePath?).bind (·.pathNames.getLast?)) ==
                 ["Instance", "ResolveError"])

def factoryOf (index : Index) (file : FileFacts) (service : TypeName) (path : String)
    (line : Nat) : Except Failure FactoryMethod := do
  match index.function? path with
  | none =>
      throw (.malformed file.path line (Failure.unknownFactory service.fullName path).message)
  | some (home, found) =>
      if found.hasReceiver then
        throw (.malformed file.path line ("factory " ++ path ++ " must not take self"))
      match factoryParameters index (home.scope found.scope) found.inputs with
      | .error message =>
          throw (.malformed home.path found.line ("factory " ++ path ++ ": " ++ message))
      | .ok parameters =>
          let factory : FactoryMethod := ⟨path, parameters⟩
          if factory.takesContainerOnly && !returnsInstance found.output then
            throw (.malformed home.path found.line
              ("factory " ++ path ++ " takes only the resolver and must return " ++
                "Result<Instance, ResolveError>"))
          return factory

/-! ## Services -/

structure Gathered where
  registrations : List RegistrationModel
  factory : Option (String × Nat)

def registrationOf (index : Index) (file : FileFacts) (item : DeclaredItem) (lifetime : Lifetime)
    (found : FoundAttribute) : Except Failure (RegistrationModel × Option String) := do
  let scope := file.scope item.scope
  let given ← ofSyntax file.path (serviceArguments found.tree)
  let service ←
    match given.service with
    | none => pure none
    | some path =>
        let arity ← ofSyntax file.path (openArity path)
        pure (some { index.resolve scope path with arity := arity })
  return ({ RegistrationModel.ofLifetime lifetime with
    line := found.line
    verb := given.verb
    key := given.key
    crossWire := given.crossWire
    service := service
    realm := given.realm.map (index.resolve scope) },
    given.factory.map fun path => (index.resolve scope path).fullName)

/-- Adds what one attribute declares. Two different factories conflict. -/
def gather (index : Index) (file : FileFacts) (item : DeclaredItem) (gathered : Gathered)
    (found : FoundAttribute) : Except Failure Gathered :=
  match found.kind with
  | .module => .ok gathered
  | .unknown name =>
      .error (.malformed file.path found.line (Failure.unknownLifetime name).message)
  | .service lifetime => do
      let (registration, factory) ← registrationOf index file item lifetime found
      let registrations := gathered.registrations ++ [registration]
      match factory, gathered.factory with
      | none, _ => return { gathered with registrations }
      | some path, some (existing, _) =>
          if existing == path then return ⟨registrations, some (path, found.line)⟩
          else
            throw (.malformed file.path found.line
              (item.name ++ " declares conflicting factories " ++ existing ++ " and " ++ path))
      | some path, none => return ⟨registrations, some (path, found.line)⟩

def gatherAll (index : Index) (file : FileFacts) (item : DeclaredItem) :
    Gathered → List FoundAttribute → Except Failure Gathered
  | gathered, [] => .ok gathered
  | gathered, found :: rest => do
      gatherAll index file item (← gather index file item gathered found) rest

/-- The service that an item declares; without service attributes it declares none. -/
def serviceOf (index : Index) (file : FileFacts) (item : DeclaredItem) :
    Except Failure (Option ServiceDescriptor) := do
  let type := { item.type file with arity := item.typeParameters }
  let gathered ← gatherAll index file item ⟨[], none⟩ item.attributes
  if gathered.registrations.isEmpty then return none
  else
    let factory ←
      match gathered.factory with
      | none => pure none
      | some (path, line) => do pure (some (← factoryOf index file type path line))
    return some ⟨type, file.path, index.interfacesOf type.fullName, gathered.registrations,
      factory⟩

/-! ## Whole files -/

structure Findings where
  modules : List ModuleDescriptor
  services : List ServiceDescriptor
  diagnostics : List Diagnostic

namespace Findings

def none : Findings :=
  ⟨[], [], []⟩

def append (left right : Findings) : Findings :=
  ⟨left.modules ++ right.modules, left.services ++ right.services,
    left.diagnostics ++ right.diagnostics⟩

def concat : List Findings → Findings
  | [] => none
  | first :: rest => append first (concat rest)

def problem (path : String) (failure : Failure) : Findings :=
  ⟨[], [], [.ofFailure path failure]⟩

end Findings

def moduleFindings (index : Index) (settings : Settings) (file : FileFacts)
    (item : DeclaredItem) (found : FoundAttribute) : Findings :=
  match moduleOf index settings file item found with
  | .ok module => ⟨[module], [], []⟩
  | .error failure => .problem file.path failure

def serviceFindings (index : Index) (file : FileFacts) (item : DeclaredItem) : Findings :=
  match serviceOf index file item with
  | .ok (some service) => ⟨[], [service], []⟩
  | .ok none => .none
  | .error failure => .problem file.path failure

def itemFindings (index : Index) (settings : Settings) (file : FileFacts)
    (item : DeclaredItem) : Findings :=
  let modules := item.attributes.filter (·.kind == .module)
  (Findings.concat (modules.map (moduleFindings index settings file item))).append
    (serviceFindings index file item)

def misplacedDiagnostic (path : String) (found : Misplaced) : Diagnostic :=
  ⟨.error, path, found.line,
    "#[" ++ found.name ++ "] can only be applied to a struct or enum"⟩

def programFindings (index : Index) (settings : Settings) (file : FileFacts) : Findings :=
  if settings.autoGenerateModule && file.hasMain && !file.moduleCalls.isEmpty then
    ⟨[programModule index settings file], [], []⟩
  else .none

def fileFindings (index : Index) (settings : Settings) (file : FileFacts) : Findings :=
  let misplaced : Findings := ⟨[], [], file.misplaced.map (misplacedDiagnostic file.path)⟩
  (misplaced.append (.concat (file.items.map (itemFindings index settings file)))).append
    (programFindings index settings file)

def analyze (settings : Settings) (files : List FileFacts) : Findings :=
  let index := Index.ofFiles files
  .concat (files.map (fileFindings index settings))

end Wiring.Source
