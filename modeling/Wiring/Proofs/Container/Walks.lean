import Wiring.Container.Loading
import Wiring.Proofs.Walk.Closure

/-!
# The walk over modules

Where equality of modules is an equivalence with finitely many classes, the walk below any roots
comes to its end, and what it lists is closed: see `Family.walk_closure`.
-/

set_option autoImplicit false

namespace Wiring.Container.Family

variable {μ : Type}

/-- The walk below some roots comes to its end within the levels that it may go down. -/
def Finishes (family : Family μ) (roots : List μ) : Prop :=
  Walk.Runs family.rules .start (roots.map .direct) (family.walk roots)

/-- What a walk without a failure lists. -/
structure ClosedFrom (family : Family μ) (roots list : List μ) : Prop where
  /-- No two modules of the list are equal. -/
  distinct : list.Pairwise fun front back =>
    family.covers front back = false ∧ family.covers back front = false
  rootsListed : ∀ root ∈ roots, ∃ module ∈ list, family.covers module root = true
  /-- Every provider of a listed module succeeds, and what it provides is equal to a listed
  module. -/
  referencesListed : ∀ module ∈ list,
    ∀ reference ∈ family.references module ++ family.extras module,
      ∃ next, reference.outcome = .ok next ∧ ∃ other ∈ list, family.covers other next = true
  /-- A module stands in front of the one that led to it. -/
  led : ∀ front module back, list = front ++ module :: back →
    module ∈ roots ∨ ∃ leader ∈ back, family.rules.Leads leader module

theorem nodes_eq_ok_iff {ε : Type} {walk : Walk μ ε} {list : List μ} :
    walk.nodes = .ok list ↔ walk.failure = none ∧ walk.placed = list := by
  cases failed : walk.failure <;> simp [Walk.nodes, failed]

theorem nodes_eq_error_iff {ε : Type} {walk : Walk μ ε} {failure : ε} :
    walk.nodes = .error failure ↔ walk.failure = some failure := by
  cases failed : walk.failure <;> simp [Walk.nodes, failed]

theorem outcome_eq_error_iff {ε : Type} {reference : Reference μ ε} {failure : ε} :
    reference.outcome = .error failure ↔ reference = .called (.error failure) := by
  cases reference <;> simp [Reference.outcome]

theorem covers_eq_false_symm {family : Family μ}
    (equivalent : Equivalence fun left right => family.covers left right = true) {left right : μ}
    (apart : family.covers left right = false) : family.covers right left = false := by
  rw [Bool.eq_false_iff]
  intro covers
  have turned : family.covers left right = true := equivalent.symm covers
  simp [apart] at turned

theorem finishes_of_reachable (family : Family μ)
    (equivalent : Equivalence fun left right => family.covers left right = true)
    (roots : List μ)
    (covered : ∀ root ∈ roots, ∀ module, family.rules.Reaches root module →
      ∃ member ∈ family.members, family.covers member module = true) :
    family.Finishes roots := by
  have covers : family.rules.CoversEquivalent := equivalent
  apply Walk.runs_visitAll covers family.members
    fun module => ∃ root ∈ roots, family.rules.Reaches root module
  · rintro module ⟨root, member, reaches⟩ next leads
    exact ⟨root, member, reaches.tail leads⟩
  · rintro module ⟨root, member, reaches⟩
    exact covered root member module reaches
  · intro reference member module outcome
    exact ⟨module, mem_of_direct member outcome, Relation.ReflTransGen.refl⟩
  · have few : (Walk.uncovered family.rules family.members
        (Walk.start : Walk μ ProviderFailure)).length ≤ family.members.length :=
      List.length_filter_le _ _
    exact Nat.lt_succ_of_le few

theorem Finishes.closedFrom {family : Family μ} {roots list : List μ}
    (finishes : family.Finishes roots)
    (equivalent : Equivalence fun left right => family.covers left right = true)
    (listed : (family.walk roots).nodes = .ok list) : family.ClosedFrom roots list := by
  obtain ⟨finished, rfl⟩ := nodes_eq_ok_iff.mp listed
  have covers_self : ∀ module, family.rules.covers module module = true := equivalent.refl
  obtain ⟨rootsSettled, placedSettled⟩ := finishes.settled covers_self finished
  refine ⟨?_, ?_, ?_, ?_⟩
  · have distinct := finishes.distinct (by simp [Walk.Distinct, Walk.start])
    refine distinct.imp ?_
    intro front back apart
    exact ⟨covers_eq_false_symm equivalent apart, apart⟩
  · intro root member
    obtain ⟨module, outcome, known⟩ := rootsSettled (.direct root) (List.mem_map_of_mem member)
    obtain rfl : root = module := Except.ok.inj outcome
    exact (Walk.isCovered_iff _ _ _).mp known
  · intro module member reference referenceMember
    rcases placedSettled module member with early | settled
    · simp [Walk.start] at early
    · obtain ⟨next, outcome, known⟩ := settled reference referenceMember
      exact ⟨next, outcome, (Walk.isCovered_iff _ _ _).mp known⟩
  · intro front module back split
    obtain ⟨reference, met, outcome⟩ := finishes.grounded_of_start.led front module back split
    rcases met with start | ⟨leader, behind, leads⟩
    · exact Or.inl (mem_of_direct start outcome)
    · exact Or.inr ⟨leader, behind, reference, leads, outcome⟩

theorem Finishes.walk_append {family : Family μ} {roots more : List μ}
    (finishes : family.Finishes roots) (finishesAll : family.Finishes (roots ++ more)) :
    Walk.Runs family.rules (family.walk roots) (more.map .direct)
      (family.walk (roots ++ more)) := by
  unfold Finishes at finishesAll
  rw [List.map_append] at finishesAll
  obtain ⟨middle, front, back⟩ := finishesAll.of_append
  obtain rfl := finishes.deterministic front
  exact back

/-- Where equality of modules is an equivalence, and each module is equal to one of the members,
the walk from any roots is the one run that there is. If it succeeds, its list is closed; roots
that are added only put modules in front; and if it fails, the failure is that of a provider of a
module that can be reached. -/
theorem walk_closure (family : Family μ)
    (equivalent : Equivalence fun left right => family.covers left right = true)
    (finite : ∀ module, ∃ member ∈ family.members, family.covers member module = true)
    (roots more : List μ) :
    (∀ final, Walk.Runs family.rules .start (roots.map .direct) final ↔
      final = family.walk roots) ∧
    (∀ list, (family.walk roots).nodes = .ok list → family.ClosedFrom roots list) ∧
    (∀ list, (family.walk (roots ++ more)).nodes = .ok list →
      ∃ first, (family.walk roots).nodes = .ok first ∧ first <:+ list) ∧
    ∀ failure, (family.walk roots).nodes = .error failure →
      (family.walk (roots ++ more)).nodes = .error failure ∧
        ∃ root ∈ roots, ∃ module, family.rules.Reaches root module ∧
          .called (.error failure) ∈ family.references module ++ family.extras module := by
  have finishes : ∀ roots, family.Finishes roots := fun roots =>
    family.finishes_of_reachable equivalent roots fun _ _ module _ => finite module
  have later := (finishes roots).walk_append (finishes (roots ++ more))
  refine ⟨?_, ?_, ?_, ?_⟩
  · intro final
    constructor
    · exact (finishes roots).deterministic
    · rintro rfl
      exact finishes roots
  · intro list listed
    exact (finishes roots).closedFrom equivalent listed
  · intro list listed
    obtain ⟨finished, rfl⟩ := nodes_eq_ok_iff.mp listed
    exact ⟨(family.walk roots).placed,
      nodes_eq_ok_iff.mpr ⟨later.going finished, rfl⟩, later.suffix⟩
  · intro failure refused
    have failed := nodes_eq_error_iff.mp refused
    have same := later.eq_of_failed (by simp [failed])
    obtain ⟨root, member, module, reaches, reference, listed, outcome⟩ :=
      (finishes roots).grounded_of_start.failed_reachable failed
    obtain rfl := outcome_eq_error_iff.mp outcome
    exact ⟨by rw [same]; exact refused, root, member, module, reaches, listed⟩

/-- Numbers of four classes. Two classes lead to each other, by other numbers than they were
reached by; one leads to both; and one has a provider that fails. -/
def residues : Family Nat where
  name := toString
  covers left right := left % 4 == right % 4
  references module :=
    match module % 4 with
    | 0 => [.direct 1]
    | 1 => [.called (.ok 4)]
    | 2 => [.direct 5, .called (.ok 8)]
    | _ => [.direct 2, .called (.error ⟨"three", "refused"⟩)]
  extras module := [.direct module]
  applyServices _ session := session
  configure _ session := session
  features _ := []
  featureOrder _ := 0
  handles _ := []
  handleFeature _ _ _ session := session
  members := [0, 1, 2, 3]

theorem residues_covers_iff (left right : Nat) :
    residues.covers left right = true ↔ left % 4 = right % 4 := by
  simp [residues]

theorem residues_equivalent :
    Equivalence fun left right => residues.covers left right = true := by
  simp only [residues_covers_iff]
  exact ⟨fun _ => rfl, Eq.symm, Eq.trans⟩

theorem residues_finite (module : Nat) :
    ∃ member ∈ residues.members, residues.covers member module = true := by
  have small : module % 4 = 0 ∨ module % 4 = 1 ∨ module % 4 = 2 ∨ module % 4 = 3 := by omega
  simp only [residues_covers_iff]
  simp only [residues, List.mem_cons, List.not_mem_nil, or_false, exists_eq_or_imp,
    exists_eq_left]
  omega

theorem walk_closure_residues :
    (residues.walk [2]).nodes = .ok [4, 5, 2] ∧ residues.ClosedFrom [2] [4, 5, 2] ∧
      ∃ root ∈ [2, 3], ∃ module, residues.rules.Reaches root module ∧
        .called (.error ⟨"three", "refused"⟩) ∈
          residues.references module ++ residues.extras module :=
  ⟨rfl, (walk_closure residues residues_equivalent residues_finite [2] []).2.1 _ rfl,
    ((walk_closure residues residues_equivalent residues_finite [2, 3] []).2.2.2 _ rfl).2⟩

end Wiring.Container.Family
