import Mathlib.Logic.Relation
import Wiring.Walk

/-!
# Runs of a walk

A run walks references until nothing is left or a call fails; no number of levels limits it. A walk
has one run at most.  Where some members cover every node that can be reached, the walk with more
levels than there are members left to cover is a run, so it never stops for want of levels.
-/

set_option autoImplicit false

namespace Wiring

variable {α ε : Type}

def Reference.outcome : Reference α ε → Except ε α
  | .direct node => .ok node
  | .called outcome => outcome

theorem mem_of_direct {nodes : List α} {reference : Reference α ε} {node : α}
    (member : reference ∈ nodes.map .direct) (outcome : reference.outcome = .ok node) :
    node ∈ nodes := by
  obtain ⟨found, foundMember, rfl⟩ := List.mem_map.mp member
  obtain rfl : found = node := Except.ok.inj outcome
  exact foundMember

namespace WalkRules

/-- A node leads to the next one by one of its references. -/
def Leads (rules : WalkRules α ε) (node next : α) : Prop :=
  ∃ reference ∈ rules.references node, reference.outcome = .ok next

/-- What a node leads to in any number of steps. -/
def Reaches (rules : WalkRules α ε) : α → α → Prop :=
  Relation.ReflTransGen rules.Leads

/-- Covering is an equivalence of nodes. -/
def CoversEquivalent (rules : WalkRules α ε) : Prop :=
  Equivalence fun left right => rules.covers left right = true

end WalkRules

namespace Walk

/-- The run of a walk over references, one rule for each thing that can become of the first of
them. -/
inductive Runs (rules : WalkRules α ε) :
    Walk α ε → List (Reference α ε) → Walk α ε → Prop where
  | nil (walk : Walk α ε) : Runs rules walk [] walk
  | ended {walk : Walk α ε} {reference : Reference α ε} {rest : List (Reference α ε)}
      (stopped : walk.failure.isSome = true) :
      Runs rules walk (reference :: rest) walk
  | refused {walk after : Walk α ε} {reference : Reference α ε} {rest : List (Reference α ε)}
      (going : walk.failure = none) (followed : walk.follow reference = (after, none)) :
      Runs rules walk (reference :: rest) after
  | covered {walk after final : Walk α ε} {reference : Reference α ε} {node : α}
      {rest : List (Reference α ε)} (going : walk.failure = none)
      (followed : walk.follow reference = (after, some node))
      (known : after.isCovered rules node = true) (later : Runs rules after rest final) :
      Runs rules walk (reference :: rest) final
  | placed {walk after middle final : Walk α ε} {reference : Reference α ε} {node : α}
      {rest : List (Reference α ε)} (going : walk.failure = none)
      (followed : walk.follow reference = (after, some node))
      (fresh : after.isCovered rules node = false)
      (below : Runs rules (after.place node) (rules.references node) middle)
      (later : Runs rules middle rest final) :
      Runs rules walk (reference :: rest) final

/-! ## Single steps -/

theorem follow_some {walk after : Walk α ε} {reference : Reference α ε} {node : α}
    (followed : walk.follow reference = (after, some node)) :
    reference.outcome = .ok node ∧ after.placed = walk.placed ∧
      after.failure = walk.failure := by
  cases reference with
  | direct found =>
      simp only [follow, Prod.mk.injEq, Option.some.injEq] at followed
      obtain ⟨rfl, rfl⟩ := followed
      exact ⟨rfl, rfl, rfl⟩
  | called outcome =>
      cases outcome with
      | ok found =>
          simp only [follow, Prod.mk.injEq, Option.some.injEq] at followed
          obtain ⟨rfl, rfl⟩ := followed
          exact ⟨rfl, rfl, rfl⟩
      | error failure => simp [follow] at followed

theorem follow_none {walk after : Walk α ε} {reference : Reference α ε}
    (followed : walk.follow reference = (after, none)) :
    ∃ failure, reference.outcome = .error failure ∧ after.placed = walk.placed ∧
      after.failure = some failure := by
  cases reference with
  | direct found => simp [follow] at followed
  | called outcome =>
      cases outcome with
      | ok found => simp [follow] at followed
      | error failure =>
          simp only [follow, Prod.mk.injEq, and_true] at followed
          subst followed
          exact ⟨failure, rfl, rfl, rfl⟩

theorem visit_ended {rules : WalkRules α ε} {walk : Walk α ε}
    (stopped : walk.failure.isSome = true) (depth : Nat) (reference : Reference α ε) :
    visit rules (depth + 1) walk reference = walk := by
  simp [visit, stopped]

theorem visit_refused {rules : WalkRules α ε} {walk after : Walk α ε} {reference : Reference α ε}
    (going : walk.failure = none) (followed : walk.follow reference = (after, none))
    (depth : Nat) : visit rules (depth + 1) walk reference = after := by
  simp [visit, going, followed]

theorem visit_covered {rules : WalkRules α ε} {walk after : Walk α ε} {reference : Reference α ε}
    {node : α} (going : walk.failure = none) (followed : walk.follow reference = (after, some node))
    (known : after.isCovered rules node = true) (depth : Nat) :
    visit rules (depth + 1) walk reference = after := by
  simp [visit, going, followed, known]

theorem visit_placed {rules : WalkRules α ε} {walk after : Walk α ε} {reference : Reference α ε}
    {node : α} (going : walk.failure = none) (followed : walk.follow reference = (after, some node))
    (fresh : after.isCovered rules node = false) (depth : Nat) :
    visit rules (depth + 1) walk reference =
      (after.place node).visitAll rules depth (rules.references node) := by
  simp [visit, visitAll, going, followed, fresh]

theorem visitAll_cons (rules : WalkRules α ε) (depth : Nat) (walk : Walk α ε)
    (reference : Reference α ε) (rest : List (Reference α ε)) :
    walk.visitAll rules depth (reference :: rest) =
      (visit rules depth walk reference).visitAll rules depth rest :=
  rfl

/-- A walk that is over stays as it is, whatever is left to visit. -/
theorem visitAll_ended {rules : WalkRules α ε} {walk : Walk α ε}
    (stopped : walk.failure.isSome = true) (depth : Nat) (references : List (Reference α ε)) :
    walk.visitAll rules (depth + 1) references = walk := by
  induction references with
  | nil => rfl
  | cons reference rest ih => rw [visitAll_cons, visit_ended stopped, ih]

theorem isCovered_iff (rules : WalkRules α ε) (walk : Walk α ε) (node : α) :
    walk.isCovered rules node = true ↔
      ∃ existing ∈ walk.placed, rules.covers existing node = true := by
  simp [isCovered]

theorem isCovered_of_suffix {rules : WalkRules α ε} {walk later : Walk α ε} {node : α}
    (grown : walk.placed <:+ later.placed) (known : walk.isCovered rules node = true) :
    later.isCovered rules node = true := by
  rw [isCovered_iff] at known ⊢
  obtain ⟨existing, member, covers⟩ := known
  exact ⟨existing, grown.subset member, covers⟩

/-! ## A walk has one run -/

/-- A run only puts nodes in front of those that are there. -/
theorem Runs.suffix {rules : WalkRules α ε} {walk final : Walk α ε}
    {references : List (Reference α ε)} (run : Runs rules walk references final) :
    walk.placed <:+ final.placed := by
  induction run with
  | nil walk => exact List.suffix_refl _
  | ended stopped => exact List.suffix_refl _
  | refused going followed =>
      obtain ⟨_, _, same, _⟩ := follow_none followed
      exact ⟨[], same.symm⟩
  | covered going followed known later ih =>
      rw [← (follow_some followed).2.1]
      exact ih
  | @placed walk after middle final reference node rest going followed fresh below later
      below_ih later_ih =>
      have placed : walk.placed <:+ (after.place node).placed := by
        rw [place, (follow_some followed).2.1]
        exact List.suffix_cons node walk.placed
      exact placed.trans (below_ih.trans later_ih)

theorem Runs.deterministic {rules : WalkRules α ε} {walk final other : Walk α ε}
    {references : List (Reference α ε)} (run : Runs rules walk references final)
    (again : Runs rules walk references other) : other = final := by
  induction run generalizing other with
  | nil walk => cases again; rfl
  | ended stopped =>
      cases again with
      | ended _ => rfl
      | refused going _ => simp [going] at stopped
      | covered going _ _ _ => simp [going] at stopped
      | placed going _ _ _ _ => simp [going] at stopped
  | refused going followed =>
      cases again with
      | ended stopped => simp [going] at stopped
      | refused _ followed' =>
          rw [followed] at followed'
          exact (Prod.mk.inj followed').1.symm
      | covered _ followed' _ _ => simp [followed] at followed'
      | placed _ followed' _ _ _ => simp [followed] at followed'
  | covered going followed known later ih =>
      cases again with
      | ended stopped => simp [going] at stopped
      | refused _ followed' => simp [followed] at followed'
      | covered _ followed' _ later' =>
          rw [followed] at followed'
          obtain ⟨rfl, -⟩ := Prod.mk.inj followed'
          exact ih later'
      | placed _ followed' fresh _ _ =>
          rw [followed] at followed'
          simp only [Prod.mk.injEq, Option.some.injEq] at followed'
          obtain ⟨rfl, rfl⟩ := followed'
          simp [known] at fresh
  | placed going followed fresh below later below_ih later_ih =>
      cases again with
      | ended stopped => simp [going] at stopped
      | refused _ followed' => simp [followed] at followed'
      | covered _ followed' known _ =>
          rw [followed] at followed'
          simp only [Prod.mk.injEq, Option.some.injEq] at followed'
          obtain ⟨rfl, rfl⟩ := followed'
          simp [fresh] at known
      | placed _ followed' _ below' later' =>
          rw [followed] at followed'
          simp only [Prod.mk.injEq, Option.some.injEq] at followed'
          obtain ⟨rfl, rfl⟩ := followed'
          have middle := below_ih below'
          subst middle
          exact later_ih later'

/-! ## Levels -/

/-- The members that no placed node covers. -/
def uncovered (rules : WalkRules α ε) (members : List α) (walk : Walk α ε) : List α :=
  members.filter fun member => !walk.isCovered rules member

theorem uncovered_congr {rules : WalkRules α ε} {members : List α} {left right : Walk α ε}
    (same : left.placed = right.placed) :
    uncovered rules members left = uncovered rules members right := by
  simp only [uncovered, isCovered, same]

theorem uncovered_place (rules : WalkRules α ε) (members : List α) (walk : Walk α ε) (node : α) :
    uncovered rules members (walk.place node) =
      (uncovered rules members walk).filter fun member => !rules.covers node member := by
  simp only [uncovered, List.filter_filter, isCovered, place, List.any_cons, Bool.not_or]

theorem length_uncovered_le (rules : WalkRules α ε) (members : List α) {walk later : Walk α ε}
    (grown : walk.placed <:+ later.placed) :
    (uncovered rules members later).length ≤ (uncovered rules members walk).length := by
  simp only [uncovered, ← List.countP_eq_length_filter]
  apply List.countP_mono_left
  intro member _ left
  cases known : walk.isCovered rules member with
  | false => rfl
  | true => simp [isCovered_of_suffix grown known] at left

/-- A node that is placed covers a member that was not covered before: the one that covers it. -/
theorem length_uncovered_place_lt {rules : WalkRules α ε} (equivalent : rules.CoversEquivalent)
    {members : List α} {walk : Walk α ε} {node member : α} (listed : member ∈ members)
    (covers : rules.covers member node = true) (fresh : walk.isCovered rules node = false) :
    (uncovered rules members (walk.place node)).length <
      (uncovered rules members walk).length := by
  rw [uncovered_place, List.length_filter_lt_length_iff_exists]
  have uncoveredMember : walk.isCovered rules member = false := by
    rw [Bool.eq_false_iff]
    intro known
    obtain ⟨existing, placed, existingCovers⟩ := (isCovered_iff rules walk member).mp known
    have known' := (isCovered_iff rules walk node).mpr
      ⟨existing, placed, equivalent.trans existingCovers covers⟩
    simp [fresh] at known'
  refine ⟨member, by simp [uncovered, listed, uncoveredMember], ?_⟩
  simp [equivalent.symm covers]

/-- Where the members cover every node that can be reached, more levels than there are uncovered
members are enough for a run. -/
theorem runs_visitAll {rules : WalkRules α ε} (equivalent : rules.CoversEquivalent)
    (members : List α) (inside : α → Prop)
    (closed : ∀ node, inside node → ∀ next, rules.Leads node next → inside next)
    (listed : ∀ node, inside node → ∃ member ∈ members, rules.covers member node = true)
    (depth : Nat) (walk : Walk α ε) (references : List (Reference α ε))
    (within : ∀ reference ∈ references, ∀ node, reference.outcome = .ok node → inside node)
    (enough : (uncovered rules members walk).length < depth) :
    Runs rules walk references (walk.visitAll rules depth references) := by
  induction depth generalizing walk references with
  | zero => omega
  | succ depth depth_ih =>
      induction references generalizing walk with
      | nil => exact Runs.nil walk
      | cons reference rest rest_ih =>
          have withinRest : ∀ reference ∈ rest, ∀ node,
              reference.outcome = .ok node → inside node :=
            fun reference member => within reference (List.mem_cons_of_mem _ member)
          rw [visitAll_cons]
          cases going : walk.failure with
          | some failure =>
              have stopped : walk.failure.isSome = true := by simp [going]
              rw [visit_ended stopped, visitAll_ended stopped]
              exact Runs.ended stopped
          | none =>
              rcases followed : walk.follow reference with ⟨after, _ | node⟩
              · obtain ⟨failure, _, _, failed⟩ := follow_none followed
                rw [visit_refused going followed, visitAll_ended (by simp [failed])]
                exact Runs.refused going followed
              · obtain ⟨outcome, samePlaced, -⟩ := follow_some followed
                have enoughAfter : (uncovered rules members after).length < depth + 1 := by
                  rw [uncovered_congr samePlaced]
                  exact enough
                have nodeInside : inside node :=
                  within reference (List.mem_cons_self ..) node outcome
                cases known : after.isCovered rules node with
                | true =>
                    rw [visit_covered going followed known]
                    exact Runs.covered going followed known (rest_ih after withinRest enoughAfter)
                | false =>
                    obtain ⟨member, memberListed, covers⟩ := listed node nodeInside
                    have fewer := length_uncovered_place_lt equivalent memberListed covers known
                    have below := depth_ih (after.place node) (rules.references node)
                      (fun next nextMember found gives =>
                        closed node nodeInside found ⟨next, nextMember, gives⟩) (by omega)
                    have grown := length_uncovered_le rules members below.suffix
                    rw [visit_placed going followed known]
                    exact Runs.placed going followed known below
                      (rest_ih _ withinRest (by omega))

end Walk

end Wiring
