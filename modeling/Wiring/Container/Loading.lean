import Wiring.Container.Collection
import Wiring.Walk

/-!
Modules loaded into a container. Loading walks the modules below some roots, applies each one that
has not been applied before, and then lets handlers see the providers of their features.
-/

set_option autoImplicit false

namespace Wiring.Container

structure ProviderFailure where
  module : String
  reason : String
deriving DecidableEq, Repr

def ProviderFailure.message (failure : ProviderFailure) : String :=
  "Module provider for " ++ failure.module ++ " failed: " ++ failure.reason

/-- A container: its registrations, and the modules that made them. -/
structure Loaded (μ : Type) where
  registrations : Registrations
  applied : List μ

def Loaded.empty {μ : Type} : Loaded μ :=
  ⟨[], []⟩

inductive Call (μ : Type) where
  | provide (module : μ)
  | applyServices (module : μ)
  | configure (module : μ)
  | handle (module : μ) (feature : String) (providers : List μ)

/-- A container in use: the calls are those that loading modules into it has made. -/
structure Session (μ : Type) where
  loaded : Loaded μ
  calls : List (Call μ)

namespace Session

variable {μ : Type}

def start (registrations : Registrations) : Session μ :=
  ⟨⟨registrations, []⟩, []⟩

def called (session : Session μ) (calls : List (Call μ)) : Session μ :=
  { session with calls := session.calls ++ calls }

def mark (session : Session μ) (module : μ) : Session μ :=
  { session with
    loaded := { session.loaded with applied := session.loaded.applied ++ [module] } }

def register (session : Session μ) (change : Registrations → Registrations) : Session μ :=
  { session with
    loaded := { session.loaded with registrations := change session.loaded.registrations } }

def add (session : Session μ) (registration : Registration) : Session μ :=
  session.register fun registrations => registrations.add registration

def applyAll (session : Session μ) (operations : List Operation) : Session μ :=
  session.register fun registrations => registrations.applyAll operations

end Session

/-- What modules of a kind are and do. A hook gets the whole container, so it may load further
modules into it. -/
structure Family (μ : Type) where
  name : μ → String
  /-- Whether a module that is there already counts as another one. -/
  covers : μ → μ → Bool
  references : μ → List (Reference μ ProviderFailure)
  /-- References that were found in another way. They are walked after the others. -/
  extras : μ → List (Reference μ ProviderFailure)
  applyServices : μ → Session μ → Session μ
  configure : μ → Session μ → Session μ
  features : μ → List String
  featureOrder : μ → Int
  handles : μ → List String
  handleFeature : μ → String → List μ → Session μ → Session μ
  /-- Every module is covered by one of these as soon as it stands. -/
  members : List μ

namespace Family

variable {μ : Type}

def rules (family : Family μ) : WalkRules μ ProviderFailure :=
  ⟨family.covers, fun module => family.references module ++ family.extras module⟩

/-- More levels than a walk can go down: on a way down no module covers another. -/
def depth (family : Family μ) : Nat :=
  family.members.length + 1

def walk (family : Family μ) (roots : List μ) : Walk μ ProviderFailure :=
  Walk.ofRoots family.rules family.depth roots

def isApplied (family : Family μ) (loaded : Loaded μ) (module : μ) : Bool :=
  loaded.applied.any fun existing => family.covers existing module

/-! ## Hooks -/

def hook (family : Family μ) : Call μ → Session μ → Session μ
  | .provide _ => id
  | .applyServices module => family.applyServices module
  | .configure module => family.configure module
  | .handle module feature providers => family.handleFeature module feature providers

/-- Calls a hook. What it calls itself comes right behind its own call. -/
def perform (family : Family μ) (session : Session μ) (call : Call μ) : Session μ :=
  let after := family.hook call ⟨session.loaded, []⟩
  ⟨after.loaded, session.calls ++ call :: after.calls⟩

/-! ## Services -/

/-- What loading has come to, and the handlers among the modules that it has applied. -/
structure Progress (μ : Type) where
  session : Session μ
  handlers : List μ

/-- Lets a module make its registrations. It counts as applied when its hooks are through. -/
def applyHooks (family : Family μ) (session : Session μ) (module : μ) : Session μ :=
  (family.perform (family.perform session (.applyServices module)) (.configure module)).mark module

/-- Applies a module unless it has been applied. -/
def applyOnce (family : Family μ) (progress : Progress μ) (module : μ) : Progress μ :=
  if family.isApplied progress.session.loaded module then progress
  else
    ⟨family.applyHooks progress.session module,
      if (family.handles module).isEmpty then progress.handlers else progress.handlers ++ [module]⟩

/-! ## Features -/

/-- The providers of a feature among some modules: in the order that they ask for, and otherwise
in the order in which they stand. -/
def providers (family : Family μ) (modules : List μ) (feature : String) : List μ :=
  (modules.filter fun module => (family.features module).contains feature).mergeSort
    fun left right => family.featureOrder left ≤ family.featureOrder right

def handledFeatures (family : Family μ) (handlers : List μ) : List (μ × String) :=
  handlers.flatMap fun handler => (family.handles handler).map fun feature => (handler, feature)

def handleCall (family : Family μ) (modules : List μ) (handled : μ × String) : Call μ :=
  .handle handled.1 handled.2 (family.providers modules handled.2)

def handleOne (family : Family μ) (modules : List μ) (session : Session μ)
    (handled : μ × String) : Session μ :=
  family.perform session (family.handleCall modules handled)

/-! ## Loading -/

def applyWalked (family : Family μ) (modules : List μ) (session : Session μ) : Session μ :=
  let progress := modules.foldl family.applyOnce ⟨session, []⟩
  (family.handledFeatures progress.handlers).foldl (family.handleOne modules) progress.session

/-- Loads the modules below some roots into a container, and says whether that worked. The walk
comes first: if it fails, nothing is applied. -/
def populate (family : Family μ) (roots : List μ) (session : Session μ) :
    Except ProviderFailure Unit × Session μ :=
  let walk := family.walk roots
  let walked := session.called (walk.calls.map .provide)
  match walk.nodes with
  | .error failure => (.error failure, walked)
  | .ok modules => (.ok (), family.applyWalked modules walked)

/-- Loads one list of roots after the other into a container. A list that fails is passed over. -/
def populateAll (family : Family μ) (calls : List (List μ)) (session : Session μ) : Session μ :=
  calls.foldl (fun session roots => (family.populate roots session).2) session

def load (family : Family μ) (roots : List μ) (loaded : Loaded μ) :
    Except ProviderFailure (Loaded μ) :=
  let (outcome, after) := family.populate roots ⟨loaded, []⟩
  outcome.map fun _ => after.loaded

def loadCalls (family : Family μ) (roots : List μ) (loaded : Loaded μ) : List (Call μ) :=
  (family.populate roots ⟨loaded, []⟩).2.calls

end Family

end Wiring.Container
