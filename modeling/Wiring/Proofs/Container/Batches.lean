import Mathlib.Data.List.Forall2
import Wiring.Proofs.Container.Loading

/-!
# Loading in several calls

Whatever calls load modules into one container, and in whatever order: no two applied modules are
equal, a call that fails or that is made again changes nothing, and the applied modules are those
that can be reached from the roots of the calls that succeeded.  See `Family.populateAll_exact`.
-/

set_option autoImplicit false

namespace Wiring.Container.Family

variable {μ : Type} {family : Family μ}

/-! ## Equal modules -/

/-- Two references come to equal modules, or both fail. -/
def Alike (family : Family μ) (left right : Reference μ ProviderFailure) : Prop :=
  match left.outcome, right.outcome with
  | .ok left, .ok right => family.covers left right = true
  | .error _, .error _ => True
  | _, _ => False

/-- Equal modules expose references and extras that are pairwise alike. -/
structure Congruent (family : Family μ) : Prop where
  references : ∀ left right, family.covers left right = true →
    List.Forall₂ family.Alike (family.references left) (family.references right)
  extras : ∀ left right, family.covers left right = true →
    List.Forall₂ family.Alike (family.extras left) (family.extras right)

/-- A walk from some roots succeeds. -/
def Succeeds (family : Family μ) (roots : List μ) : Prop :=
  ∃ list, (family.walk roots).nodes = .ok list

/-- A module that can be reached from a root, up to equality. -/
def ReachedFrom (family : Family μ) (root module : μ) : Prop :=
  ∃ reached, family.rules.Reaches root reached ∧ family.covers reached module = true

theorem exists_alike {left right : List (Reference μ ProviderFailure)}
    (alike : List.Forall₂ family.Alike left right) {reference : Reference μ ProviderFailure}
    (member : reference ∈ right) : ∃ other ∈ left, family.Alike other reference := by
  induction alike with
  | nil => simp at member
  | @cons first second lefts rights head tail ih =>
      rcases List.mem_cons.mp member with rfl | member
      · exact ⟨first, List.mem_cons_self .., head⟩
      · obtain ⟨other, otherMember, alike⟩ := ih member
        exact ⟨other, List.mem_cons_of_mem _ otherMember, alike⟩

theorem Congruent.rules (congruent : family.Congruent) {left right : μ}
    (equal : family.covers left right = true) :
    List.Forall₂ family.Alike (family.rules.references left) (family.rules.references right) :=
  List.rel_append (congruent.references left right equal) (congruent.extras left right equal)

theorem Alike.ok_of_ok {left right : Reference μ ProviderFailure}
    (alike : family.Alike left right) {module : μ} (outcome : left.outcome = .ok module) :
    ∃ other, right.outcome = .ok other ∧ family.covers module other = true := by
  unfold Alike at alike
  rw [outcome] at alike
  cases found : right.outcome with
  | ok other => exact ⟨other, rfl, by simpa [found] using alike⟩
  | error failure => simp [found] at alike

/-! ## What a closed list holds -/

/-- A closed list holds everything that can be reached, and every reference on the way there
succeeds: what a listed module refers to is alike to what an equal one refers to. -/
theorem ClosedFrom.reached {roots list : List μ} (closed : family.ClosedFrom roots list)
    (equivalent : Equivalence fun left right => family.covers left right = true)
    (congruent : family.Congruent) {root module : μ} (member : root ∈ roots)
    (reaches : family.rules.Reaches root module) :
    ∃ listed ∈ list, family.covers listed module = true := by
  induction reaches with
  | refl => exact closed.rootsListed root member
  | @tail between next _ leads ih =>
      obtain ⟨listed, listedMember, equal⟩ := ih
      obtain ⟨reference, referenceMember, outcome⟩ := leads
      obtain ⟨other, otherMember, alike⟩ := exists_alike (congruent.rules equal) referenceMember
      obtain ⟨found, otherOutcome, target, targetMember, covers⟩ :=
        closed.referencesListed listed listedMember other otherMember
      obtain ⟨same, sameOutcome, foundEqual⟩ := alike.ok_of_ok otherOutcome
      obtain rfl : same = next := Except.ok.inj (sameOutcome.symm.trans outcome)
      exact ⟨target, targetMember, equivalent.trans covers foundEqual⟩

theorem ClosedFrom.references_succeed {roots list : List μ} (closed : family.ClosedFrom roots list)
    (equivalent : Equivalence fun left right => family.covers left right = true)
    (congruent : family.Congruent) {root module : μ} (member : root ∈ roots)
    (reaches : family.rules.Reaches root module) :
    ∀ reference ∈ family.rules.references module, ∃ next, reference.outcome = .ok next := by
  intro reference referenceMember
  obtain ⟨listed, listedMember, equal⟩ := closed.reached equivalent congruent member reaches
  obtain ⟨other, otherMember, alike⟩ := exists_alike (congruent.rules equal) referenceMember
  obtain ⟨found, otherOutcome, -⟩ :=
    closed.referencesListed listed listedMember other otherMember
  obtain ⟨next, outcome, -⟩ := alike.ok_of_ok otherOutcome
  exact ⟨next, outcome⟩

theorem Finishes.listed_iff {roots list : List μ} (finishes : family.Finishes roots)
    (equivalent : Equivalence fun left right => family.covers left right = true)
    (congruent : family.Congruent) (listed : (family.walk roots).nodes = .ok list) (module : μ) :
    (∃ found ∈ list, family.covers found module = true) ↔
      ∃ root ∈ roots, family.ReachedFrom root module := by
  have closed := finishes.closedFrom equivalent listed
  constructor
  · rintro ⟨found, member, equal⟩
    obtain ⟨-, rfl⟩ := nodes_eq_ok_iff.mp listed
    obtain ⟨root, rootMember, reaches⟩ := finishes.grounded_of_start.reachable found member
    exact ⟨root, rootMember, found, reaches, equal⟩
  · rintro ⟨root, rootMember, reached, reaches, equal⟩
    obtain ⟨found, member, covers⟩ := closed.reached equivalent congruent rootMember reaches
    exact ⟨found, member, equivalent.trans covers equal⟩

/-- Whether a walk succeeds does not depend on how its roots are grouped: it does exactly if no
provider that can be reached from one of them fails. -/
theorem Finishes.succeeds_iff {roots : List μ} (finishes : family.Finishes roots)
    (equivalent : Equivalence fun left right => family.covers left right = true)
    (congruent : family.Congruent) :
    family.Succeeds roots ↔
      ∀ root ∈ roots, ∀ module, family.rules.Reaches root module →
        ∀ reference ∈ family.references module ++ family.extras module,
          ∃ next, reference.outcome = .ok next := by
  constructor
  · rintro ⟨list, listed⟩ root member module reaches
    exact (finishes.closedFrom equivalent listed).references_succeed equivalent congruent
      member reaches
  · intro succeed
    cases nodes : (family.walk roots).nodes with
    | ok list => exact ⟨list, nodes⟩
    | error failure =>
        obtain ⟨root, member, module, reaches, reference, listed, outcome⟩ :=
          finishes.grounded_of_start.failed_reachable (nodes_eq_error_iff.mp nodes)
        obtain ⟨next, success⟩ := succeed root member module reaches reference listed
        simp [outcome] at success

/-! ## One call -/

def servicesOf? : Call μ → Option μ
  | .applyServices module => some module
  | _ => none

def configuredBy? : Call μ → Option μ
  | .configure module => some module
  | _ => none

/-- A view of calls that shows each module once among the calls of its hooks, and nothing else. -/
structure ShowsHook (view : Call μ → Option μ) : Prop where
  provide : ∀ module, view (.provide module) = none
  handle : ∀ module feature providers, view (.handle module feature providers) = none
  hooks : ∀ module, (hookCalls module).filterMap view = [module]

theorem showsHook_servicesOf? : ShowsHook (servicesOf? : Call μ → Option μ) :=
  ⟨fun _ => rfl, fun _ _ _ => rfl, fun _ => rfl⟩

theorem showsHook_configuredBy? : ShowsHook (configuredBy? : Call μ → Option μ) :=
  ⟨fun _ => rfl, fun _ _ _ => rfl, fun _ => rfl⟩

theorem ShowsHook.filterMap_provide {view : Call μ → Option μ} (shows : ShowsHook view)
    (modules : List μ) : (modules.map Call.provide).filterMap view = [] := by
  simp [shows.provide]

theorem ShowsHook.filterMap_applyWalked {view : Call μ → Option μ} (shows : ShowsHook view)
    {modules : List μ}
    (registers : family.OnlyRegisters)
    (distinct : modules.Pairwise fun first later => family.covers first later = false)
    (session : Session μ) :
    (family.applyWalked modules session).calls.filterMap view =
      session.calls.filterMap view ++ family.unapplied session.loaded modules := by
  have hooks : ∀ applied : List μ, (applied.flatMap hookCalls).filterMap view = applied := by
    intro applied
    induction applied with
    | nil => rfl
    | cons module rest ih =>
        rw [List.flatMap_cons, List.filterMap_append, shows.hooks, ih]
        rfl
  have handled : ∀ features : List (μ × String),
      (features.map (family.handleCall modules)).filterMap view = [] := by
    intro features
    simp [handleCall, shows.handle]
  rw [registers.calls_applyWalked, family.newlyApplied_eq_unapplied distinct,
    List.filterMap_append, List.filterMap_append, hooks, handled, List.append_nil]

/-- What holds of a container and the calls made for it at any time: the applied modules are
pairwise unequal, and each of their hooks has run once. -/
structure Sound (family : Family μ) (session : Session μ) : Prop where
  distinct : session.loaded.applied.Pairwise fun first later =>
    family.covers first later = false ∧ family.covers later first = false
  services : session.calls.filterMap servicesOf? = session.loaded.applied
  configured : session.calls.filterMap configuredBy? = session.loaded.applied

theorem ClosedFrom.pairwise {roots list : List μ} (closed : family.ClosedFrom roots list) :
    list.Pairwise fun first later => family.covers first later = false :=
  closed.distinct.imp fun apart => apart.1

theorem Sound.populate {session : Session μ} (sound : family.Sound session)
    (registers : family.OnlyRegisters) {roots : List μ} (finishes : family.Finishes roots)
    (equivalent : Equivalence fun left right => family.covers left right = true) :
    family.Sound (family.populate roots session).2 := by
  have provided {view : Call μ → Option μ} (shows : ShowsHook view) :
      (session.called ((family.walk roots).calls.map .provide)).calls.filterMap view =
        session.calls.filterMap view := by
    rw [Session.called, List.filterMap_append, shows.filterMap_provide, List.append_nil]
  cases nodes : (family.walk roots).nodes with
  | error failure =>
      rw [family.populate_of_error nodes]
      exact ⟨sound.distinct, (provided showsHook_servicesOf?).trans sound.services,
        (provided showsHook_configuredBy?).trans sound.configured⟩
  | ok list =>
      have closed := finishes.closedFrom equivalent nodes
      rw [family.populate_of_ok nodes]
      have applied := registers.applied_applyWalked list
        (session.called ((family.walk roots).calls.map .provide))
      rw [family.newlyApplied_eq_unapplied closed.pairwise] at applied
      refine ⟨?_, ?_, ?_⟩
      · rw [applied]
        refine List.pairwise_append.mpr ⟨sound.distinct, closed.distinct.filter _, ?_⟩
        intro existing early module fresh
        have apart : family.covers existing module = false := by
          have notApplied := (List.mem_filter.mp fresh).2
          simp only [isApplied, Bool.not_eq_true', List.any_eq_false] at notApplied
          simpa using notApplied existing early
        exact ⟨apart, covers_eq_false_symm equivalent apart⟩
      · rw [showsHook_servicesOf?.filterMap_applyWalked registers closed.pairwise, applied,
          provided showsHook_servicesOf?, sound.services]
        rfl
      · rw [showsHook_configuredBy?.filterMap_applyWalked registers closed.pairwise, applied,
          provided showsHook_configuredBy?, sound.configured]
        rfl

theorem Finishes.isApplied_populate {roots : List μ} (finishes : family.Finishes roots)
    (registers : family.OnlyRegisters)
    (equivalent : Equivalence fun left right => family.covers left right = true)
    (session : Session μ) (module : μ) :
    family.isApplied (family.populate roots session).2.loaded module = true ↔
      family.isApplied session.loaded module = true ∨
        ∃ list, (family.walk roots).nodes = .ok list ∧
          ∃ found ∈ list, family.covers found module = true := by
  cases nodes : (family.walk roots).nodes with
  | error failure =>
      rw [family.populate_of_error nodes]
      simp [Session.called]
  | ok list =>
      have closed := finishes.closedFrom equivalent nodes
      rw [family.populate_of_ok nodes, isApplied_iff, registers.applied_applyWalked,
        family.newlyApplied_eq_unapplied closed.pairwise]
      simp only [Session.called, isApplied_iff, List.mem_append, Except.ok.injEq, exists_eq_left']
      constructor
      · rintro ⟨existing, applied | fresh, equal⟩
        · exact Or.inl ⟨existing, applied, equal⟩
        · exact Or.inr ⟨existing, (List.mem_filter.mp fresh).1, equal⟩
      · rintro (⟨existing, applied, equal⟩ | ⟨found, member, equal⟩)
        · exact ⟨existing, Or.inl applied, equal⟩
        · cases known : family.isApplied session.loaded found with
          | true =>
              obtain ⟨existing, applied, covers⟩ := (family.isApplied_iff _ _).mp known
              exact ⟨existing, Or.inl applied, equivalent.trans covers equal⟩
          | false =>
              exact ⟨found, Or.inr (List.mem_filter.mpr ⟨member, by simp [known]⟩), equal⟩

theorem inTurn_eq_nil {session : Session μ} {list : List μ}
    (applied : ∀ module ∈ list, family.isApplied session.loaded module = true) :
    family.inTurn session list = [] := by
  induction list with
  | nil => rfl
  | cons module rest ih =>
      obtain ⟨first, later⟩ := List.forall_mem_cons.mp applied
      rw [family.inTurn_of_applied first, ih later]

theorem populate_again {roots list : List μ} (listed : (family.walk roots).nodes = .ok list)
    {session : Session μ}
    (applied : ∀ module ∈ list, family.isApplied session.loaded module = true) :
    family.populate roots session =
      (.ok (), ⟨session.loaded, session.calls ++ (family.walk roots).calls.map .provide⟩) := by
  have none : family.inTurn (session.called ((family.walk roots).calls.map .provide)) list = [] :=
    inTurn_eq_nil applied
  rw [family.populate_of_ok listed, applyWalked_eq, none]
  rfl

/-! ## Many calls -/

theorem Sound.populateAll {session : Session μ} (sound : family.Sound session)
    (registers : family.OnlyRegisters) {calls : List (List μ)}
    (finishes : ∀ roots ∈ calls, family.Finishes roots)
    (equivalent : Equivalence fun left right => family.covers left right = true) :
    family.Sound (family.populateAll calls session) := by
  induction calls generalizing session with
  | nil => exact sound
  | cons roots calls ih =>
      have first := sound.populate registers (finishes roots (List.mem_cons_self ..)) equivalent
      exact ih first fun roots member => finishes roots (List.mem_cons_of_mem _ member)

theorem isApplied_populateAll (registers : family.OnlyRegisters) {calls : List (List μ)}
    (finishes : ∀ roots ∈ calls, family.Finishes roots)
    (equivalent : Equivalence fun left right => family.covers left right = true)
    (session : Session μ) (module : μ) :
    family.isApplied (family.populateAll calls session).loaded module = true ↔
      family.isApplied session.loaded module = true ∨
        ∃ roots ∈ calls, ∃ list, (family.walk roots).nodes = .ok list ∧
          ∃ found ∈ list, family.covers found module = true := by
  induction calls generalizing session with
  | nil => simp [populateAll]
  | cons roots calls ih =>
      have first := (finishes roots (List.mem_cons_self ..)).isApplied_populate registers
        equivalent session module
      have later := ih (fun roots member => finishes roots (List.mem_cons_of_mem _ member))
        (family.populate roots session).2
      rw [first] at later
      simp only [List.mem_cons, exists_eq_or_imp]
      rw [← or_assoc]
      exact later

theorem populate_fst (roots : List μ) (session : Session μ) :
    (family.populate roots session).1 = .ok () ↔ family.Succeeds roots := by
  cases nodes : (family.walk roots).nodes with
  | error failure => simp [family.populate_of_error nodes, Succeeds, nodes]
  | ok list => simp [family.populate_of_ok nodes, Succeeds, nodes]

/-- What several calls have made of a container. -/
structure Exact (family : Family μ) (calls : List (List μ)) (session : Session μ) : Prop
    extends Sound family session where
  /-- A further call that fails leaves the container as it is. -/
  failed : ∀ roots failure, (family.populate roots session).1 = .error failure →
    (family.populate roots session).2.loaded = session.loaded
  /-- A call that succeeded changes nothing when it is made again, and calls providers only. -/
  again : ∀ roots ∈ calls, family.Succeeds roots →
    family.populate roots session =
      (.ok (), ⟨session.loaded, session.calls ++ (family.walk roots).calls.map .provide⟩)
  /-- Applied is what can be reached from the roots of the calls that succeeded. -/
  reached : ∀ module, family.isApplied session.loaded module = true ↔
    ∃ roots ∈ calls, family.Succeeds roots ∧ ∃ root ∈ roots, family.ReachedFrom root module

/-- If hooks only change registrations, any calls that come to their end load exactly what can be
reached from the roots of those that succeed, and apply nothing twice. A call succeeds, at any time,
if no provider that can be reached from its roots fails. So the order of the calls and the grouping
of the roots play no part in what is applied. -/
theorem populateAll_exact (family : Family μ)
    (equivalent : Equivalence fun left right => family.covers left right = true)
    (congruent : family.Congruent) (registers : family.OnlyRegisters)
    (registrations : Registrations) (calls : List (List μ))
    (finishes : ∀ roots ∈ calls, family.Finishes roots) :
    family.Exact calls (family.populateAll calls (.start registrations)) ∧
      (∀ roots ∈ calls, ∀ session, (family.populate roots session).1 = .ok () ↔
        ∀ root ∈ roots, ∀ module, family.rules.Reaches root module →
          ∀ reference ∈ family.references module ++ family.extras module,
            ∃ next, reference.outcome = .ok next) ∧
      ∀ others, (∀ roots ∈ others, family.Finishes roots) →
        (∀ root, (∃ roots ∈ calls, family.Succeeds roots ∧ root ∈ roots) ↔
          ∃ roots ∈ others, family.Succeeds roots ∧ root ∈ roots) →
        ∀ module, family.isApplied (family.populateAll calls (.start registrations)).loaded module =
          family.isApplied (family.populateAll others (.start registrations)).loaded module := by
  have unapplied : ∀ module,
      family.isApplied (Session.start registrations : Session μ).loaded module = false :=
    fun _ => rfl
  have reached : ∀ batch : List (List μ), (∀ roots ∈ batch, family.Finishes roots) → ∀ module,
      family.isApplied (family.populateAll batch (.start registrations)).loaded module = true ↔
        ∃ roots ∈ batch, family.Succeeds roots ∧
          ∃ root ∈ roots, family.ReachedFrom root module := by
    intro batch batchFinishes module
    rw [isApplied_populateAll registers batchFinishes equivalent, unapplied]
    simp only [Bool.false_eq_true, false_or]
    constructor
    · rintro ⟨roots, member, list, listed, found⟩
      exact ⟨roots, member, ⟨list, listed⟩,
        ((batchFinishes roots member).listed_iff equivalent congruent listed module).mp found⟩
    · rintro ⟨roots, member, ⟨list, listed⟩, root⟩
      exact ⟨roots, member, list, listed,
        ((batchFinishes roots member).listed_iff equivalent congruent listed module).mpr root⟩
  have sound : family.Sound (family.populateAll calls (.start registrations)) :=
    Sound.populateAll ⟨List.Pairwise.nil, rfl, rfl⟩ registers finishes equivalent
  refine ⟨⟨sound, ?_, ?_, reached calls finishes⟩, ?_, ?_⟩
  · intro roots failure refused
    cases nodes : (family.walk roots).nodes with
    | error cause =>
        rw [family.populate_of_error nodes]
        rfl
    | ok list => simp [family.populate_of_ok nodes] at refused
  · rintro roots member ⟨list, listed⟩
    refine populate_again listed ?_
    intro module moduleMember
    rw [isApplied_populateAll registers finishes equivalent]
    exact Or.inr ⟨roots, member, list, listed, module, moduleMember, equivalent.refl module⟩
  · intro roots member session
    rw [populate_fst]
    exact (finishes roots member).succeeds_iff equivalent congruent
  · intro others othersFinish sameRoots module
    rw [Bool.eq_iff_iff, reached calls finishes, reached others othersFinish]
    constructor
    · rintro ⟨roots, member, succeeds, root, rootMember, found⟩
      obtain ⟨other, otherMember, otherSucceeds, within⟩ :=
        (sameRoots root).mp ⟨roots, member, succeeds, rootMember⟩
      exact ⟨other, otherMember, otherSucceeds, root, within, found⟩
    · rintro ⟨roots, member, succeeds, root, rootMember, found⟩
      obtain ⟨other, otherMember, otherSucceeds, within⟩ :=
        (sameRoots root).mpr ⟨roots, member, succeeds, rootMember⟩
      exact ⟨other, otherMember, otherSucceeds, root, within, found⟩

theorem residues_congruent : residues.Congruent := by
  have alike_self : ∀ reference : Reference Nat ProviderFailure,
      residues.Alike reference reference := by
    intro reference
    unfold Alike
    cases reference.outcome <;> simp [residues]
  refine ⟨?_, ?_⟩
  · intro left right equal
    have same : residues.references left = residues.references right := by
      simp only [residues, (residues_covers_iff left right).mp equal]
    rw [same]
    exact List.forall₂_same.mpr fun reference _ => alike_self reference
  · intro left right equal
    exact List.Forall₂.cons equal List.Forall₂.nil

theorem residues_onlyRegisters : residues.OnlyRegisters :=
  onlyRegisters_of_register fun call => by cases call <;> exact ⟨id, fun _ => rfl⟩

theorem populateAll_exact_residues :
    (residues.populateAll [[0], [2, 3], [1, 4], [2]] (.start [])).loaded.applied = [1, 0, 2] ∧
      residues.Exact [[0], [2, 3], [1, 4], [2]]
        (residues.populateAll [[0], [2, 3], [1, 4], [2]] (.start [])) :=
  ⟨rfl, (populateAll_exact residues residues_equivalent residues_congruent
    residues_onlyRegisters [] _
    fun roots _ => residues.finishes_of_reachable residues_equivalent roots
      fun _ _ module _ => residues_finite module).1⟩

end Wiring.Container.Family
