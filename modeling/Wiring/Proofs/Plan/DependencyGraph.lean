import Mathlib.Data.List.Nodup
import Wiring.Plan.DependencyGraph

/-!
# Paths of a dependency graph

Which module a path denotes, and how paths are followed: following a path is following its edges
first, and what is pending waits.
-/

set_option autoImplicit false

namespace Wiring.Plan

/-! ## Trails -/

/-- The paths met are those that stand in the order. -/
def Trail.Consistent (trail : Trail) : Prop :=
  ∀ id, trail.visited.contains id = true ↔ id ∈ trail.order

theorem Trail.consistent_start : Trail.start.Consistent := by
  intro id
  simp [Trail.start]

theorem Trail.Consistent.reach {trail : Trail} (consistent : trail.Consistent) (id : String) :
    (trail.reach id).Consistent := by
  intro other
  have before := consistent other
  simp only [Trail.reach, Std.HashSet.contains_insert, Bool.or_eq_true, beq_iff_eq, List.mem_cons,
    before]
  rw [eq_comm]

namespace DependencyGraph

variable {graph : DependencyGraph}

/-! ## Modules of paths -/

theorem id_of_get? {id : String} {module : ModuleDescriptor} (found : graph.get? id = some module) :
    module.id = id := by
  simpa using List.find?_some found

theorem mem_of_get? {id : String} {module : ModuleDescriptor}
    (found : graph.get? id = some module) :
    module ∈ graph.modules := by
  simpa using List.mem_of_find?_eq_some found

theorem exists_get? {id : String} (known : id ∈ graph.modules.map ModuleDescriptor.id) :
    ∃ module, graph.get? id = some module := by
  obtain ⟨module, member, rfl⟩ := List.mem_map.mp known
  rw [← Option.isSome_iff_exists, get?, List.find?_isSome]
  exact ⟨module, List.mem_reverse.mpr member, by simp⟩

theorem get?_id (distinct : (graph.modules.map ModuleDescriptor.id).Nodup)
    {module : ModuleDescriptor} (member : module ∈ graph.modules) :
    graph.get? module.id = some module := by
  obtain ⟨found, foundAt⟩ := graph.exists_get? (List.mem_map_of_mem member)
  have same := List.inj_on_of_nodup_map distinct (mem_of_get? foundAt) member (id_of_get? foundAt)
  rw [foundAt, same]

theorem get?_eq_none_iff (id : String) :
    graph.get? id = none ↔ id ∉ graph.modules.map ModuleDescriptor.id := by
  constructor
  · intro unknown known
    obtain ⟨module, found⟩ := graph.exists_get? known
    simp [unknown] at found
  · intro unknown
    cases found : graph.get? id with
    | none => rfl
    | some module =>
        rw [← id_of_get? found] at unknown
        exact absurd (List.mem_map_of_mem (mem_of_get? found)) unknown

theorem exists_get?_of_mem_edges {id next : String} (edge : next ∈ graph.edges id) :
    ∃ module, graph.get? id = some module ∧ next ∈ module.dependencyIds := by
  cases found : graph.get? id with
  | none => simp [edges, found] at edge
  | some module => exact ⟨module, rfl, by simpa [edges, found] using edge⟩

/-! ## Following paths -/

theorem follow_visited {id : String} {trail : Trail} (known : trail.visited.contains id = true)
    (pending : List String) : graph.follow (id :: pending) trail = graph.follow pending trail := by
  rw [follow, if_pos known]

/-- Following paths one after the other is following them all: what is pending waits until the
edges of the paths in front of it have been followed. -/
theorem follow_append (first pending : List String) (trail : Trail) :
    graph.follow (first ++ pending) trail = graph.follow pending (graph.follow first trail) := by
  fun_induction graph.follow first trail with
  | case1 trail => rfl
  | case2 id rest trail known ih =>
      rw [List.cons_append, follow_visited known, ih]
  | case3 id rest trail fresh ih =>
      rw [List.cons_append, follow, if_neg fresh, ← List.append_assoc, ih]

theorem follow_fresh {id : String} {trail : Trail} (fresh : trail.visited.contains id = false)
    (pending : List String) :
    graph.follow (id :: pending) trail =
      graph.follow pending (graph.follow (graph.edges id) (trail.reach id)) := by
  rw [follow, if_neg (by simp [fresh]), follow_append]

theorem flatten_ids (roots : List String) :
    (graph.flatten roots).map Node.id = graph.order roots := by
  rw [flatten, List.map_map]
  refine (List.map_congr_left fun id _ => ?_).trans (List.map_id _)
  cases found : graph.get? id with
  | some module => simp [found, Node.id, id_of_get? found]
  | none => simp [found, Node.id]

end DependencyGraph

end Wiring.Plan
