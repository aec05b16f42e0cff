import Wiring.Proofs.Container.Walks

/-!
# What loading does

Loading a list of modules runs the hooks of those that are not applied when their turn comes, and
then lets the handlers among these handle their features. Hooks may load further modules. Where they
only change registrations, the modules applied are those that no module applied by then covers, and
if the modules are pairwise unequal, those that were not applied before.
-/

set_option autoImplicit false

namespace Wiring.Container.Family

variable {μ : Type} (family : Family μ)

def unapplied (loaded : Loaded μ) (modules : List μ) : List μ :=
  modules.filter fun module => !family.isApplied loaded module

def newlyApplied : List μ → List μ → List μ
  | _, [] => []
  | applied, module :: rest =>
      if applied.any fun existing => family.covers existing module then newlyApplied applied rest
      else module :: newlyApplied (applied ++ [module]) rest

/-- The modules of a list that are not applied when their turn comes, when the hooks of those before
them are through. -/
def inTurn : Session μ → List μ → List μ
  | _, [] => []
  | session, module :: rest =>
      if family.isApplied session.loaded module then inTurn session rest
      else module :: inTurn (family.applyHooks session module) rest

def hookCalls (module : μ) : List (Call μ) :=
  [.applyServices module, .configure module]

def handlersAmong (modules : List μ) : List μ :=
  modules.filter fun module => !(family.handles module).isEmpty

def handledBy (modules : List μ) : List (μ × String) :=
  family.handledFeatures (family.handlersAmong modules)

theorem isApplied_iff (loaded : Loaded μ) (module : μ) :
    family.isApplied loaded module = true ↔
      ∃ existing ∈ loaded.applied, family.covers existing module = true := by
  simp [isApplied]

/-! ## Turns -/

theorem inTurn_of_applied {session : Session μ} {module : μ} {rest : List μ}
    (known : family.isApplied session.loaded module = true) :
    family.inTurn session (module :: rest) = family.inTurn session rest := by
  rw [inTurn, if_pos known]

theorem inTurn_of_unapplied {session : Session μ} {module : μ} {rest : List μ}
    (fresh : family.isApplied session.loaded module = false) :
    family.inTurn session (module :: rest) =
      module :: family.inTurn (family.applyHooks session module) rest := by
  rw [inTurn, if_neg (by simp [fresh])]

theorem applyOnce_applied {progress : Progress μ} {module : μ}
    (known : family.isApplied progress.session.loaded module = true) :
    family.applyOnce progress module = progress := by
  simp [applyOnce, known]

theorem applyOnce_unapplied {progress : Progress μ} {module : μ}
    (fresh : family.isApplied progress.session.loaded module = false) :
    family.applyOnce progress module =
      ⟨family.applyHooks progress.session module,
        progress.handlers ++ family.handlersAmong [module]⟩ := by
  cases quiet : (family.handles module).isEmpty <;>
    simp [applyOnce, fresh, quiet, handlersAmong]

theorem foldl_applyOnce (modules : List μ) (progress : Progress μ) :
    modules.foldl family.applyOnce progress =
      ⟨(family.inTurn progress.session modules).foldl family.applyHooks progress.session,
        progress.handlers ++ family.handlersAmong (family.inTurn progress.session modules)⟩ := by
  induction modules generalizing progress with
  | nil => simp [inTurn, handlersAmong]
  | cons module rest ih =>
      rw [List.foldl_cons]
      cases known : family.isApplied progress.session.loaded module with
      | true => rw [family.applyOnce_applied known, family.inTurn_of_applied known, ih]
      | false =>
          rw [family.applyOnce_unapplied known, family.inTurn_of_unapplied known, ih]
          simp [handlersAmong, List.filter_cons]
          split <;> simp

/-- The hooks of the modules whose turn comes, and then their features. -/
theorem applyWalked_eq (modules : List μ) (session : Session μ) :
    family.applyWalked modules session =
      (family.handledBy (family.inTurn session modules)).foldl (family.handleOne modules)
        ((family.inTurn session modules).foldl family.applyHooks session) := by
  rw [applyWalked, family.foldl_applyOnce]
  rfl

theorem populate_of_error {roots : List μ} {failure : ProviderFailure}
    (refused : (family.walk roots).nodes = .error failure) (session : Session μ) :
    family.populate roots session =
      (.error failure, session.called ((family.walk roots).calls.map .provide)) := by
  simp [populate, refused]

theorem populate_of_ok {roots list : List μ} (listed : (family.walk roots).nodes = .ok list)
    (session : Session μ) :
    family.populate roots session =
      (.ok (), family.applyWalked list
        (session.called ((family.walk roots).calls.map .provide))) := by
  simp [populate, listed]

/-! ## Modules that are new -/

theorem newlyApplied_of_applied {loaded : Loaded μ} {module : μ} {rest : List μ}
    (known : family.isApplied loaded module = true) :
    family.newlyApplied loaded.applied (module :: rest) =
      family.newlyApplied loaded.applied rest := by
  rw [isApplied] at known
  rw [newlyApplied, if_pos known]

theorem newlyApplied_of_unapplied {loaded : Loaded μ} {module : μ} {rest : List μ}
    (fresh : family.isApplied loaded module = false) :
    family.newlyApplied loaded.applied (module :: rest) =
      module :: family.newlyApplied (loaded.applied ++ [module]) rest := by
  rw [isApplied] at fresh
  rw [newlyApplied, if_neg (by simp [fresh])]

theorem unapplied_snoc {loaded : Loaded μ} {registrations : Registrations} {module : μ}
    {rest : List μ} (apart : ∀ later ∈ rest, family.covers module later = false) :
    family.unapplied ⟨registrations, loaded.applied ++ [module]⟩ rest =
      family.unapplied loaded rest := by
  apply List.filter_congr
  intro later member
  simp [isApplied, apart later member]

theorem newlyApplied_eq_unapplied {modules : List μ}
    (distinct : modules.Pairwise fun first later => family.covers first later = false)
    (loaded : Loaded μ) :
    family.newlyApplied loaded.applied modules = family.unapplied loaded modules := by
  induction modules generalizing loaded with
  | nil => rfl
  | cons module rest ih =>
      obtain ⟨apart, distinctRest⟩ := List.pairwise_cons.mp distinct
      cases known : family.isApplied loaded module with
      | true =>
          have skipped : family.unapplied loaded (module :: rest) =
              family.unapplied loaded rest := by
            simp [unapplied, known]
          rw [family.newlyApplied_of_applied known, ih distinctRest, skipped]
      | false =>
          have taken : family.unapplied loaded (module :: rest) =
              module :: family.unapplied loaded rest := by
            simp [unapplied, known]
          have later := ih distinctRest ⟨loaded.registrations, loaded.applied ++ [module]⟩
          rw [family.newlyApplied_of_unapplied known, later, taken, family.unapplied_snoc apart]

/-! ## Hooks that only change registrations -/

/-- No hook applies a module, or takes one out, or calls anything itself. -/
structure OnlyRegisters (family : Family μ) : Prop where
  applied : ∀ call session, (family.hook call session).loaded.applied = session.loaded.applied
  calls : ∀ call session, (family.hook call session).calls = session.calls

theorem onlyRegisters_of_register {family : Family μ}
    (changes : ∀ call, ∃ change, ∀ session, family.hook call session = session.register change) :
    family.OnlyRegisters := by
  constructor
  · intro call session
    obtain ⟨change, same⟩ := changes call
    rw [same]
    rfl
  · intro call session
    obtain ⟨change, same⟩ := changes call
    rw [same]
    rfl

namespace OnlyRegisters

variable {family : Family μ} (registers : family.OnlyRegisters)

include registers

theorem applied_perform (session : Session μ) (call : Call μ) :
    (family.perform session call).loaded.applied = session.loaded.applied :=
  registers.applied call _

theorem calls_perform (session : Session μ) (call : Call μ) :
    (family.perform session call).calls = session.calls ++ [call] := by
  rw [perform, registers.calls]

theorem applied_applyHooks (session : Session μ) (module : μ) :
    (family.applyHooks session module).loaded.applied = session.loaded.applied ++ [module] := by
  rw [applyHooks, Session.mark, registers.applied_perform, registers.applied_perform]

theorem calls_applyHooks (session : Session μ) (module : μ) :
    (family.applyHooks session module).calls = session.calls ++ hookCalls module := by
  rw [applyHooks, Session.mark, registers.calls_perform, registers.calls_perform, List.append_assoc]
  rfl

theorem inTurn_eq (session : Session μ) (modules : List μ) :
    family.inTurn session modules = family.newlyApplied session.loaded.applied modules := by
  induction modules generalizing session with
  | nil => rfl
  | cons module rest ih =>
      cases known : family.isApplied session.loaded module with
      | true =>
          rw [family.inTurn_of_applied known, family.newlyApplied_of_applied known, ih]
      | false =>
          rw [family.inTurn_of_unapplied known, family.newlyApplied_of_unapplied known, ih,
            registers.applied_applyHooks]

theorem applied_foldl_applyHooks (session : Session μ) (modules : List μ) :
    (modules.foldl family.applyHooks session).loaded.applied =
      session.loaded.applied ++ modules := by
  induction modules generalizing session with
  | nil => simp
  | cons module rest ih => rw [List.foldl_cons, ih, registers.applied_applyHooks]; simp

theorem calls_foldl_applyHooks (session : Session μ) (modules : List μ) :
    (modules.foldl family.applyHooks session).calls =
      session.calls ++ modules.flatMap hookCalls := by
  induction modules generalizing session with
  | nil => simp
  | cons module rest ih => rw [List.foldl_cons, ih, registers.calls_applyHooks]; simp

theorem applied_foldl_handleOne (modules : List μ) (session : Session μ)
    (handled : List (μ × String)) :
    (handled.foldl (family.handleOne modules) session).loaded.applied = session.loaded.applied := by
  induction handled generalizing session with
  | nil => rfl
  | cons first rest ih => rw [List.foldl_cons, ih, handleOne, registers.applied_perform]

theorem calls_foldl_handleOne (modules : List μ) (session : Session μ)
    (handled : List (μ × String)) :
    (handled.foldl (family.handleOne modules) session).calls =
      session.calls ++ handled.map (family.handleCall modules) := by
  induction handled generalizing session with
  | nil => simp
  | cons first rest ih => rw [List.foldl_cons, ih, handleOne, registers.calls_perform]; simp

theorem applied_applyWalked (modules : List μ) (session : Session μ) :
    (family.applyWalked modules session).loaded.applied =
      session.loaded.applied ++ family.newlyApplied session.loaded.applied modules := by
  rw [applyWalked_eq, registers.applied_foldl_handleOne, registers.applied_foldl_applyHooks,
    registers.inTurn_eq]

theorem calls_applyWalked (modules : List μ) (session : Session μ) :
    (family.applyWalked modules session).calls =
      session.calls ++ (family.newlyApplied session.loaded.applied modules).flatMap hookCalls ++
        (family.handledBy (family.newlyApplied session.loaded.applied modules)).map
          (family.handleCall modules) := by
  rw [applyWalked_eq, registers.calls_foldl_handleOne, registers.calls_foldl_applyHooks,
    registers.inTurn_eq]

end OnlyRegisters

end Wiring.Container.Family
