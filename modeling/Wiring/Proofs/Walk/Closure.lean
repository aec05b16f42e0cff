import Wiring.Proofs.Walk.Runs

/-!
# What a run leaves behind

A run that comes to its end without a failure leaves a list of nodes that are pairwise uncovered
and closed under references, and each of them was led to from behind.  A failure is that of a
reference of a placed node.  A run over two lists of references one after the other is two runs.
-/

set_option autoImplicit false

namespace Wiring.Walk

variable {α ε : Type} {rules : WalkRules α ε} {walk final : Walk α ε}
  {references starts : List (Reference α ε)}

/-! ## Runs one after the other -/

theorem Runs.eq_of_failed (run : Runs rules walk references final)
    (stopped : walk.failure.isSome = true) : final = walk := by
  cases run with
  | nil => rfl
  | ended _ => rfl
  | refused going _ => simp [going] at stopped
  | covered going _ _ _ => simp [going] at stopped
  | placed going _ _ _ _ => simp [going] at stopped

theorem Runs.going (run : Runs rules walk references final) (finished : final.failure = none) :
    walk.failure = none := by
  cases failed : walk.failure with
  | none => rfl
  | some failure =>
      have same := run.eq_of_failed (by simp [failed])
      rw [same, failed] at finished
      exact finished

theorem Runs.of_append {first rest : List (Reference α ε)}
    (run : Runs rules walk (first ++ rest) final) :
    ∃ middle, Runs rules walk first middle ∧ Runs rules middle rest final := by
  induction first generalizing walk with
  | nil => exact ⟨walk, Runs.nil walk, run⟩
  | cons reference first ih =>
      cases run with
      | ended stopped =>
          refine ⟨_, Runs.ended stopped, ?_⟩
          cases rest with
          | nil => exact Runs.nil _
          | cons next rest => exact Runs.ended stopped
      | refused going followed =>
          refine ⟨_, Runs.refused going followed, ?_⟩
          obtain ⟨failure, _, _, failed⟩ := follow_none followed
          cases rest with
          | nil => exact Runs.nil _
          | cons next rest => exact Runs.ended (by simp [failed])
      | covered going followed known later =>
          obtain ⟨middle, front, back⟩ := ih later
          exact ⟨middle, Runs.covered going followed known front, back⟩
      | placed going followed fresh below later =>
          obtain ⟨middle, front, back⟩ := ih later
          exact ⟨middle, Runs.placed going followed fresh below front, back⟩

/-! ## No node is covered twice -/

/-- No node of a list is covered by one behind it. -/
def Distinct (rules : WalkRules α ε) (list : List α) : Prop :=
  list.Pairwise fun front back => rules.covers back front = false

theorem Runs.distinct (run : Runs rules walk references final)
    (distinct : Distinct rules walk.placed) : Distinct rules final.placed := by
  induction run with
  | nil walk => exact distinct
  | ended stopped => exact distinct
  | refused going followed =>
      obtain ⟨_, _, same, _⟩ := follow_none followed
      rw [same]
      exact distinct
  | covered going followed known later ih =>
      apply ih
      rw [(follow_some followed).2.1]
      exact distinct
  | placed going followed fresh below later below_ih later_ih =>
      apply later_ih
      apply below_ih
      have samePlaced := (follow_some followed).2.1
      simp only [isCovered, List.any_eq_false, Bool.not_eq_true] at fresh
      exact List.pairwise_cons.mpr ⟨fresh, samePlaced ▸ distinct⟩

/-- However many levels a walk may go down, it places no node that one placed before covers. -/
theorem distinct_visitAll (depth : Nat) (references : List (Reference α ε))
    (distinct : Distinct rules walk.placed) :
    Distinct rules (walk.visitAll rules depth references).placed := by
  induction depth generalizing walk references with
  | zero =>
      induction references with
      | nil => exact distinct
      | cons reference rest ih => exact ih
  | succ depth below =>
      induction references generalizing walk with
      | nil => exact distinct
      | cons reference rest ih =>
          rw [visitAll_cons]
          apply ih
          cases going : walk.failure with
          | some failure =>
              rw [visit_ended (by simp [going])]
              exact distinct
          | none =>
              rcases followed : walk.follow reference with ⟨after, _ | node⟩
              · obtain ⟨_, _, same, _⟩ := follow_none followed
                rw [visit_refused going followed, same]
                exact distinct
              · have same := (follow_some followed).2.1
                have kept : Distinct rules after.placed := by rwa [same]
                cases known : after.isCovered rules node with
                | true =>
                    rw [visit_covered going followed known]
                    exact kept
                | false =>
                    rw [visit_placed going followed known]
                    apply below
                    rw [isCovered, List.any_eq_false] at known
                    exact List.pairwise_cons.mpr ⟨by simpa using known, kept⟩

/-! ## Every reference is settled -/

/-- A reference has come to a node that is covered. -/
def Settled (rules : WalkRules α ε) (walk : Walk α ε) (reference : Reference α ε) : Prop :=
  ∃ node, reference.outcome = .ok node ∧ walk.isCovered rules node = true

theorem Settled.of_suffix {later : Walk α ε} {reference : Reference α ε}
    (settled : Settled rules walk reference) (grown : walk.placed <:+ later.placed) :
    Settled rules later reference := by
  obtain ⟨node, outcome, known⟩ := settled
  exact ⟨node, outcome, isCovered_of_suffix grown known⟩

/-- A run without a failure settles its references, and those of each node that it places. A node
still on the way down is among those that were placed before, and its references among those of the
run. -/
theorem Runs.settled (covers_self : ∀ node, rules.covers node node = true)
    (run : Runs rules walk references final) (finished : final.failure = none) :
    (∀ reference ∈ references, Settled rules final reference) ∧
      ∀ node ∈ final.placed, node ∈ walk.placed ∨
        ∀ reference ∈ rules.references node, Settled rules final reference := by
  induction run with
  | nil walk => exact ⟨by simp, fun node member => Or.inl member⟩
  | ended stopped => simp [finished] at stopped
  | refused going followed =>
      obtain ⟨failure, _, _, failed⟩ := follow_none followed
      simp [finished] at failed
  | covered going followed known later ih =>
      obtain ⟨outcome, samePlaced, -⟩ := follow_some followed
      obtain ⟨restSettled, placedSettled⟩ := ih finished
      refine ⟨?_, fun node member => ?_⟩
      · intro reference member
        rcases List.mem_cons.mp member with rfl | member
        · exact ⟨_, outcome, isCovered_of_suffix later.suffix known⟩
        · exact restSettled reference member
      · rw [← samePlaced]
        exact placedSettled node member
  | @placed walk after middle final reference node rest going followed fresh below later
      below_ih later_ih =>
      obtain ⟨outcome, samePlaced, -⟩ := follow_some followed
      obtain ⟨restSettled, placedSettled⟩ := later_ih finished
      obtain ⟨nodeSettled, belowSettled⟩ := below_ih (later.going finished)
      have nodeCovered : (after.place node).isCovered rules node = true :=
        (isCovered_iff rules _ node).mpr ⟨node, List.mem_cons_self .., covers_self node⟩
      refine ⟨?_, ?_⟩
      · intro next member
        rcases List.mem_cons.mp member with rfl | member
        · exact ⟨node, outcome,
            isCovered_of_suffix (below.suffix.trans later.suffix) nodeCovered⟩
        · exact restSettled next member
      · intro other member
        rcases placedSettled other member with early | settled
        · rcases belowSettled other early with early | settled
          · rcases List.mem_cons.mp early with rfl | early
            · exact Or.inr fun next nextMember =>
                (nodeSettled next nextMember).of_suffix later.suffix
            · exact Or.inl (samePlaced ▸ early)
          · exact Or.inr fun next nextMember =>
              (settled next nextMember).of_suffix later.suffix
        · exact Or.inr settled

/-! ## Where nodes and failures come from -/

/-- A reference that a walk may meet: one that it starts from, or one of a placed node. -/
def Met (rules : WalkRules α ε) (starts : List (Reference α ε)) (placed : List α)
    (reference : Reference α ε) : Prop :=
  reference ∈ starts ∨ ∃ leader ∈ placed, reference ∈ rules.references leader

theorem Met.of_suffix {placed grown : List α} {reference : Reference α ε}
    (met : Met rules starts placed reference) (suffix : placed <:+ grown) :
    Met rules starts grown reference := by
  rcases met with start | ⟨leader, member, listed⟩
  · exact Or.inl start
  · exact Or.inr ⟨leader, suffix.subset member, listed⟩

/-- Every placed node stands in front of what led to it, and a failure was met. -/
structure Grounded (rules : WalkRules α ε) (starts : List (Reference α ε)) (walk : Walk α ε) :
    Prop where
  led : ∀ front node back, walk.placed = front ++ node :: back →
    ∃ reference, Met rules starts back reference ∧ reference.outcome = .ok node
  failed : ∀ failure, walk.failure = some failure →
    ∃ reference, Met rules starts walk.placed reference ∧ reference.outcome = .error failure

theorem grounded_start : Grounded rules starts (start : Walk α ε) where
  led := by
    intro front node back split
    simp [start] at split
  failed := by
    intro failure failed
    simp [start] at failed

theorem Grounded.place {after : Walk α ε} {reference : Reference α ε} {node : α}
    (grounded : Grounded rules starts walk)
    (followed : walk.follow reference = (after, some node))
    (met : Met rules starts walk.placed reference) :
    Grounded rules starts (after.place node) := by
  obtain ⟨outcome, samePlaced, sameFailure⟩ := follow_some followed
  have placed : (after.place node).placed = node :: walk.placed := by
    rw [Walk.place, samePlaced]
  refine ⟨?_, ?_⟩
  · intro front other back split
    rw [placed] at split
    cases front with
    | nil =>
        obtain ⟨rfl, rfl⟩ := List.cons.inj split
        exact ⟨reference, met, outcome⟩
    | cons first front =>
        exact grounded.led front other back (List.cons.inj split).2
  · intro failure failed
    have before : walk.failure = some failure := by
      rw [← sameFailure]
      exact failed
    obtain ⟨cause, causeMet, causeOutcome⟩ := grounded.failed failure before
    rw [placed]
    exact ⟨cause, causeMet.of_suffix (List.suffix_cons node walk.placed), causeOutcome⟩

theorem Runs.grounded (run : Runs rules walk references final)
    (met : ∀ reference ∈ references, Met rules starts walk.placed reference)
    (grounded : Grounded rules starts walk) : Grounded rules starts final := by
  induction run with
  | nil walk => exact grounded
  | ended stopped => exact grounded
  | @refused walk after reference rest going followed =>
      obtain ⟨failure, outcome, samePlaced, failed⟩ := follow_none followed
      refine ⟨?_, ?_⟩
      · rw [samePlaced]
        exact grounded.led
      · intro other otherFailed
        rw [failed] at otherFailed
        obtain rfl := Option.some.inj otherFailed
        rw [samePlaced]
        exact ⟨reference, met reference (List.mem_cons_self ..), outcome⟩
  | @covered walk after final reference node rest going followed known later ih =>
      obtain ⟨-, samePlaced, sameFailure⟩ := follow_some followed
      apply ih
      · intro next member
        rw [samePlaced]
        exact met next (List.mem_cons_of_mem _ member)
      · exact ⟨samePlaced ▸ grounded.led, by rw [samePlaced, sameFailure]; exact grounded.failed⟩
  | @placed walk after middle final reference node rest going followed fresh below later
      below_ih later_ih =>
      have samePlaced := (follow_some followed).2.1
      have placedGrounded := grounded.place followed (met reference (List.mem_cons_self ..))
      have grown : walk.placed <:+ (after.place node).placed := by
        rw [Walk.place, samePlaced]
        exact List.suffix_cons node walk.placed
      apply later_ih
      · intro next member
        exact (met next (List.mem_cons_of_mem _ member)).of_suffix (grown.trans below.suffix)
      · apply below_ih
        · intro next member
          exact Or.inr ⟨node, List.mem_cons_self .., member⟩
        · exact placedGrounded

theorem Runs.grounded_of_start (run : Runs rules start references final) :
    Grounded rules references final :=
  run.grounded (fun _ member => Or.inl member) grounded_start

theorem Grounded.reachable {roots : List α}
    (grounded : Grounded rules (roots.map .direct) walk) :
    ∀ node ∈ walk.placed, ∃ root ∈ roots, rules.Reaches root node := by
  have suffixes : ∀ back, back <:+ walk.placed → ∀ node ∈ back,
      ∃ root ∈ roots, rules.Reaches root node := by
    intro back
    induction back with
    | nil => simp
    | cons first back ih =>
        intro suffix node member
        have ofBack := ih ((List.suffix_cons first back).trans suffix)
        rcases List.mem_cons.mp member with rfl | member
        · obtain ⟨front, split⟩ := suffix
          obtain ⟨reference, met, outcome⟩ := grounded.led front node back split.symm
          rcases met with start | ⟨leader, behind, listed⟩
          · exact ⟨node, mem_of_direct start outcome, Relation.ReflTransGen.refl⟩
          · obtain ⟨root, rootMember, reaches⟩ := ofBack leader behind
            exact ⟨root, rootMember, reaches.tail ⟨reference, listed, outcome⟩⟩
        · exact ofBack node member
  exact suffixes walk.placed (List.suffix_refl _)

/-- A reference met by a walk from roots that fails belongs to a node that can be reached. -/
theorem Grounded.failed_reachable {roots : List α}
    (grounded : Grounded rules (roots.map .direct) walk) {failure : ε}
    (failed : walk.failure = some failure) :
    ∃ root ∈ roots, ∃ node, rules.Reaches root node ∧
      ∃ reference ∈ rules.references node, reference.outcome = .error failure := by
  obtain ⟨reference, met, outcome⟩ := grounded.failed failure failed
  rcases met with start | ⟨leader, member, listed⟩
  · obtain ⟨root, _, rfl⟩ := List.mem_map.mp start
    simp [Reference.outcome] at outcome
  · obtain ⟨root, rootMember, reaches⟩ := grounded.reachable leader member
    exact ⟨root, rootMember, leader, reaches, reference, listed, outcome⟩

end Wiring.Walk
