import Wiring.Proofs.Container.Loading

/-!
# What handlers see of providers

A handler runs in the load that applies it, and sees the providers among the modules that this load
lists.  Providers that earlier loads applied are seen only if this load lists them again, so a
provider and its handler that are loaded apart may miss each other: see `handled_exact` and
`handled_apart_desks`.
-/

set_option autoImplicit false

namespace Wiring.Container.Family

variable {μ : Type} (family : Family μ)

/-! ## The providers of a feature -/

/-- The providers of a feature among some modules, as a handler is to get them. -/
structure Ranked (modules : List μ) (feature : String) (seen : List μ) : Prop where
  /-- Each provider is there as often as it is among the modules. -/
  perm : seen.Perm (modules.filter fun module => (family.features module).contains feature)
  ordered : seen.Pairwise fun first later => family.featureOrder first ≤ family.featureOrder later
  /-- Providers of the same order stand as they do among the modules. -/
  ties : ∀ order, seen.filter (fun module => family.featureOrder module == order) =
    modules.filter fun module =>
      family.featureOrder module == order && (family.features module).contains feature

theorem mem_providers_iff (modules : List μ) (feature : String) (module : μ) :
    module ∈ family.providers modules feature ↔
      module ∈ modules ∧ feature ∈ family.features module := by
  simp [providers]

theorem featureOrder_trans (first second third : μ)
    (left : decide (family.featureOrder first ≤ family.featureOrder second) = true)
    (right : decide (family.featureOrder second ≤ family.featureOrder third) = true) :
    decide (family.featureOrder first ≤ family.featureOrder third) = true := by
  simp only [decide_eq_true_eq] at left right ⊢
  exact Int.le_trans left right

theorem featureOrder_total (left right : μ) :
    (decide (family.featureOrder left ≤ family.featureOrder right) ||
      decide (family.featureOrder right ≤ family.featureOrder left)) = true := by
  simp only [Bool.or_eq_true, decide_eq_true_eq]
  exact Int.le_total _ _

theorem providers_perm (modules : List μ) (feature : String) :
    (family.providers modules feature).Perm
      (modules.filter fun module => (family.features module).contains feature) :=
  List.mergeSort_perm _ _

theorem filter_providers (modules : List μ) (feature : String) (order : Int) :
    (family.providers modules feature).filter (fun module => family.featureOrder module == order) =
      modules.filter fun module =>
        family.featureOrder module == order && (family.features module).contains feature := by
  rw [← List.filter_filter]
  -- The providers of one order are sorted as they stand, so the sort keeps them as a sublist.
  have level : (List.filter (fun module => family.featureOrder module == order)
      (modules.filter fun module => (family.features module).contains feature)).Pairwise
      fun first later =>
        decide (family.featureOrder first ≤ family.featureOrder later) = true := by
    apply List.pairwise_of_forall_mem_list
    intro first firstMember later laterMember
    have firstOrder := (List.mem_filter.mp firstMember).2
    have laterOrder := (List.mem_filter.mp laterMember).2
    simp only [beq_iff_eq] at firstOrder laterOrder
    rw [firstOrder, laterOrder]
    exact decide_eq_true (Int.le_refl order)
  have kept := List.sublist_mergeSort family.featureOrder_trans family.featureOrder_total level
    List.filter_sublist
  have within := kept.filter fun module => family.featureOrder module == order
  rw [List.filter_filter] at within
  simp only [Bool.and_self] at within
  have perm := (family.providers_perm modules feature).filter
    fun module => family.featureOrder module == order
  exact (within.eq_of_length perm.length_eq.symm).symm

theorem providers_ranked (modules : List μ) (feature : String) :
    family.Ranked modules feature (family.providers modules feature) := by
  refine ⟨family.providers_perm modules feature, ?_, family.filter_providers modules feature⟩
  have sorted := List.pairwise_mergeSort family.featureOrder_trans family.featureOrder_total
    (modules.filter fun module => (family.features module).contains feature)
  exact sorted.imp of_decide_eq_true

/-! ## Applied modules -/

/-- A list holds a module, or one that is equal to it. -/
def Holds (modules : List μ) (module : μ) : Prop :=
  ∃ held ∈ modules, held = module ∨ family.covers held module = true

/-- Every applied provider of a feature is among those that a handler sees. -/
def SeesApplied (applied : List μ) (feature : String) (seen : List μ) : Prop :=
  ∀ module ∈ applied, feature ∈ family.features module → family.Holds seen module

variable {family}

theorem newlyApplied_sublist (applied modules : List μ) :
    (family.newlyApplied applied modules).Sublist modules := by
  induction modules generalizing applied with
  | nil => exact List.Sublist.refl []
  | cons module rest ih =>
      rw [newlyApplied]
      split
      · exact (ih applied).cons module
      · exact (ih (applied ++ [module])).cons_cons module

theorem holds_newlyApplied {modules : List μ} {module : μ} (member : module ∈ modules)
    (applied : List μ) :
    family.Holds (applied ++ family.newlyApplied applied modules) module := by
  induction modules generalizing applied with
  | nil => simp at member
  | cons first rest ih =>
      rw [newlyApplied]
      split
      next known =>
        rcases List.mem_cons.mp member with rfl | member
        · obtain ⟨existing, among, covers⟩ := List.any_eq_true.mp known
          exact ⟨existing, List.mem_append_left _ among, Or.inr covers⟩
        · exact ih member applied
      next =>
        rcases List.mem_cons.mp member with rfl | member
        · exact ⟨module, by simp, Or.inl rfl⟩
        · simpa using ih member (applied ++ [first])

/-- A handler sees every applied provider unless it misses one that was applied before. -/
theorem seesApplied_iff (applied list : List μ) (feature : String) :
    family.SeesApplied (applied ++ family.newlyApplied applied list) feature
        (family.providers list feature) ↔
      ∀ module ∈ applied, feature ∈ family.features module →
        ∃ listed ∈ list, feature ∈ family.features listed ∧
          (listed = module ∨ family.covers listed module = true) := by
  constructor
  · intro sees module member provides
    obtain ⟨listed, among, same⟩ := sees module (List.mem_append_left _ member) provides
    obtain ⟨listedMember, listedProvides⟩ := (family.mem_providers_iff _ _ _).mp among
    exact ⟨listed, listedMember, listedProvides, same⟩
  · intro again module member provides
    rcases List.mem_append.mp member with early | fresh
    · obtain ⟨listed, listedMember, listedProvides, same⟩ := again module early provides
      exact ⟨listed, (family.mem_providers_iff _ _ _).mpr ⟨listedMember, listedProvides⟩, same⟩
    · have listedMember := (newlyApplied_sublist applied list).subset fresh
      exact ⟨module, (family.mem_providers_iff _ _ _).mpr ⟨listedMember, provides⟩, Or.inl rfl⟩

/-! ## Calls of handlers -/

/-- Loading a list lets a handler see some providers of a feature. -/
structure Shows (family : Family μ) (applied list : List μ) (handler : μ) (feature : String)
    (seen : List μ) : Prop where
  fresh : handler ∈ family.newlyApplied applied list
  handles : feature ∈ family.handles handler
  providers : seen = family.providers list feature

theorem mem_handledBy_iff (modules : List μ) (handler : μ) (feature : String) :
    (handler, feature) ∈ family.handledBy modules ↔
      handler ∈ modules ∧ feature ∈ family.handles handler := by
  simp only [handledBy, handledFeatures, handlersAmong, List.mem_flatMap, List.mem_filter,
    List.mem_map, Prod.mk.injEq]
  constructor
  · rintro ⟨module, ⟨member, -⟩, found, handles, rfl, rfl⟩
    exact ⟨member, handles⟩
  · rintro ⟨member, handles⟩
    have handlesSome : family.handles handler ≠ [] := List.ne_nil_of_mem handles
    exact ⟨handler, ⟨member, by simpa using handlesSome⟩, feature, handles, rfl, rfl⟩

section Registering

variable (registers : family.OnlyRegisters)

include registers

theorem handle_mem_applyWalked_iff (list : List μ) (session : Session μ) (handler : μ)
    (feature : String) (seen : List μ) :
    .handle handler feature seen ∈ (family.applyWalked list session).calls ↔
      .handle handler feature seen ∈ session.calls ∨
        family.Shows session.loaded.applied list handler feature seen := by
  have noHook : .handle handler feature seen ∉
      (family.newlyApplied session.loaded.applied list).flatMap hookCalls := by
    simp [hookCalls]
  rw [registers.calls_applyWalked, List.mem_append, List.mem_append, or_iff_left noHook,
    List.mem_map]
  refine or_congr_right ?_
  constructor
  · rintro ⟨⟨module, found⟩, handled, call⟩
    obtain ⟨rfl, rfl, rfl⟩ := Call.handle.inj call
    obtain ⟨fresh, handles⟩ := (mem_handledBy_iff _ _ _).mp handled
    exact ⟨fresh, handles, rfl⟩
  · rintro ⟨fresh, handles, rfl⟩
    exact ⟨(handler, feature), (mem_handledBy_iff _ _ _).mpr ⟨fresh, handles⟩, rfl⟩

theorem applied_populate {roots list : List μ} (listed : (family.walk roots).nodes = .ok list)
    (session : Session μ) :
    (family.populate roots session).2.loaded.applied =
      session.loaded.applied ++ family.newlyApplied session.loaded.applied list := by
  rw [family.populate_of_ok listed, registers.applied_applyWalked]
  rfl

/-- A load adds the handler calls of its list, if its walk succeeds, and no others. -/
theorem handle_mem_populate_iff (roots : List μ) (session : Session μ) (handler : μ)
    (feature : String) (seen : List μ) :
    .handle handler feature seen ∈ (family.populate roots session).2.calls ↔
      .handle handler feature seen ∈ session.calls ∨
        ∃ list, (family.walk roots).nodes = .ok list ∧
          family.Shows session.loaded.applied list handler feature seen := by
  have noProvide : .handle handler feature seen ∉ (family.walk roots).calls.map Call.provide := by
    simp
  cases nodes : (family.walk roots).nodes with
  | error failure =>
      rw [family.populate_of_error nodes, Session.called, List.mem_append, or_iff_left noProvide]
      simp
  | ok list =>
      rw [family.populate_of_ok nodes, handle_mem_applyWalked_iff registers, Session.called,
        List.mem_append, or_iff_left noProvide]
      simp

/-! ## Several loads -/

omit registers in
theorem populateAll_snoc (calls : List (List μ)) (roots : List μ) (session : Session μ) :
    family.populateAll (calls ++ [roots]) session =
      (family.populate roots (family.populateAll calls session)).2 := by
  simp [populateAll]

theorem handle_mem_populateAll_iff (calls : List (List μ)) (session : Session μ) (handler : μ)
    (feature : String) (seen : List μ) :
    .handle handler feature seen ∈ (family.populateAll calls session).calls ↔
      .handle handler feature seen ∈ session.calls ∨
        ∃ earlier roots later list, calls = earlier ++ roots :: later ∧
          (family.walk roots).nodes = .ok list ∧
          family.Shows (family.populateAll earlier session).loaded.applied list handler feature
            seen := by
  induction calls generalizing session with
  | nil => simp [populateAll]
  | cons first calls ih =>
      have later := ih (family.populate first session).2
      rw [handle_mem_populate_iff registers, or_assoc] at later
      refine later.trans (or_congr_right ?_)
      constructor
      · rintro (⟨list, listed, shows⟩ | ⟨earlier, roots, rest, list, rfl, listed, shows⟩)
        · exact ⟨[], first, calls, list, rfl, listed, shows⟩
        · exact ⟨first :: earlier, roots, rest, list, rfl, listed, shows⟩
      · rintro ⟨earlier, roots, rest, list, split, listed, shows⟩
        cases earlier with
        | nil =>
            obtain ⟨rfl, rfl⟩ := List.cons.inj split
            exact Or.inl ⟨list, listed, shows⟩
        | cons head earlier =>
            obtain ⟨rfl, rfl⟩ := List.cons.inj split
            exact Or.inr ⟨earlier, roots, rest, list, rfl, listed, shows⟩

end Registering

def appliedAfter (family : Family μ) (registrations : Registrations) (calls : List (List μ)) :
    List μ :=
  (family.populateAll calls (.start registrations)).loaded.applied

/-- If hooks only change registrations, whatever was loaded before: a handler runs in the load that
applies it, for each of its features, and in no other. It sees the providers among the modules that
this load lists, each once, by their order and then as they are listed, and all of them are applied
by then. It sees every applied provider exactly if those that earlier loads applied are listed
again, so a single load into a new container hides none. -/
theorem handled_exact (family : Family μ) (registers : family.OnlyRegisters)
    (registrations : Registrations) (calls : List (List μ)) (handler : μ) (feature : String)
    (seen : List μ) :
    (.handle handler feature seen ∈ (family.populateAll calls (.start registrations)).calls ↔
      ∃ earlier roots later list, calls = earlier ++ roots :: later ∧
        (family.walk roots).nodes = .ok list ∧
        family.Shows (family.appliedAfter registrations earlier) list handler feature seen) ∧
    ∀ earlier roots list, (family.walk roots).nodes = .ok list →
      family.Shows (family.appliedAfter registrations earlier) list handler feature seen →
        family.Ranked list feature seen ∧
        (∀ provider ∈ seen,
          family.Holds (family.appliedAfter registrations (earlier ++ [roots])) provider) ∧
        (family.SeesApplied (family.appliedAfter registrations (earlier ++ [roots])) feature seen ↔
          ∀ module ∈ family.appliedAfter registrations earlier, feature ∈ family.features module →
            ∃ listed ∈ list, feature ∈ family.features listed ∧
              (listed = module ∨ family.covers listed module = true)) := by
  constructor
  · have none : .handle handler feature seen ∉ (Session.start registrations).calls := by
      simp [Session.start]
    exact (handle_mem_populateAll_iff registers _ _ _ _ _).trans (or_iff_right none)
  · rintro earlier roots list listed ⟨-, -, rfl⟩
    have applied : family.appliedAfter registrations (earlier ++ [roots]) =
        family.appliedAfter registrations earlier ++
          family.newlyApplied (family.appliedAfter registrations earlier) list := by
      rw [appliedAfter, populateAll_snoc]
      exact applied_populate registers listed _
    rw [applied]
    refine ⟨family.providers_ranked list feature, ?_, seesApplied_iff _ list feature⟩
    intro provider member
    exact holds_newlyApplied ((family.mem_providers_iff _ _ _).mp member).1 _

inductive Desk where
  | weather
  | sport
  | reader
deriving DecidableEq

def desks : Family Desk where
  name
    | .weather => "weather"
    | .sport => "sport"
    | .reader => "reader"
  covers left right := left == right
  references
    | .reader => [.direct .sport]
    | _ => []
  extras _ := []
  applyServices _ session := session
  configure _ session := session
  features
    | .reader => []
    | _ => ["News"]
  featureOrder
    | .weather => 5
    | _ => -1
  handles
    | .reader => ["News"]
    | _ => []
  handleFeature _ _ _ session := session
  members := [.weather, .sport, .reader]

theorem desks_onlyRegisters : desks.OnlyRegisters :=
  onlyRegisters_of_register fun call => by cases call <;> exact ⟨id, fun _ => rfl⟩

theorem providers_desks :
    desks.providers [.weather, .sport, .reader] "News" = [.sport, .weather] := by
  simp [providers, desks, List.mergeSort, List.MergeSort.Internal.splitInTwo]

theorem handled_exact_desks :
    (desks.walk [.reader, .weather]).nodes = .ok [.weather, .sport, .reader] ∧
      desks.Shows (desks.appliedAfter [] [[.weather]]) [.weather, .sport, .reader] .reader "News"
        [.sport, .weather] ∧
      desks.SeesApplied (desks.appliedAfter [] [[.weather], [.reader, .weather]]) "News"
        [.sport, .weather] ∧
      .handle .reader "News" [.sport, .weather] ∈
        (desks.populateAll [[.weather], [.reader, .weather]] (.start [])).calls := by
  have listed : (desks.walk [.reader, .weather]).nodes = .ok [.weather, .sport, .reader] := rfl
  have shows : desks.Shows (desks.appliedAfter [] [[.weather]]) [.weather, .sport, .reader] .reader
      "News" [.sport, .weather] :=
    ⟨by decide, by decide, providers_desks.symm⟩
  obtain ⟨called, sees⟩ := handled_exact desks desks_onlyRegisters []
    [[.weather], [.reader, .weather]] .reader "News" [.sport, .weather]
  refine ⟨listed, shows, ?_, ?_⟩
  · apply (sees [[.weather]] [.reader, .weather] _ listed shows).2.2.mpr
    intro module _ provides
    exact ⟨module, by cases module <;> decide, provides, Or.inl rfl⟩
  · exact called.mpr ⟨[[.weather]], [.reader, .weather], [], _, rfl, listed, shows⟩

/-- A provider that was loaded before the reader is hidden from it, though loaded in one call with
the reader it is seen. -/
theorem handled_apart_desks :
    .handle .reader "News" [.sport] ∈
        (desks.populateAll [[.weather], [.reader]] (.start [])).calls ∧
      ¬desks.SeesApplied (desks.appliedAfter [] [[.weather], [.reader]]) "News" [.sport] ∧
      .handle .reader "News" [.sport, .weather] ∈
        (desks.populateAll [[.reader, .weather]] (.start [])).calls := by
  refine ⟨?_, ?_, ?_⟩
  · rw [handle_mem_populateAll_iff desks_onlyRegisters]
    have seen : [.sport] = desks.providers [.sport, .reader] "News" := by
      simp [providers, desks]
    exact Or.inr ⟨[[.weather]], [.reader], [], _, rfl, rfl, by decide, by decide, seen⟩
  · intro sees
    have hidden : Desk.weather ∈ desks.appliedAfter [] [[.weather], [.reader]] := by decide
    obtain ⟨seen, member, same⟩ := sees .weather hidden (by decide)
    obtain rfl := List.mem_singleton.mp member
    revert same
    decide
  · rw [handle_mem_populateAll_iff desks_onlyRegisters]
    exact Or.inr ⟨[], [.reader, .weather], [], _, rfl, rfl, by decide, by decide,
      providers_desks.symm⟩

end Wiring.Container.Family
