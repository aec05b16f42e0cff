import Std.Data.HashSet
import Wiring.Declaration.Module

/-!
The graph of modules: a module has an edge to each module that it depends on. Flattening puts each
node in front the first time it is reached and then goes on along its edges.
-/

set_option autoImplicit false

namespace Wiring.Plan

/-- The modules of a compilation. A path is that of the last module that has it. -/
structure DependencyGraph where
  modules : List ModuleDescriptor
deriving DecidableEq, Repr

/-- A node of the flattened graph: a module, or one outside the compilation. -/
inductive Node where
  | module (found : ModuleDescriptor)
  | external (id : String)
deriving DecidableEq, Repr

def Node.id : Node → String
  | .module found => found.id
  | .external id => id

namespace DependencyGraph

def get? (graph : DependencyGraph) (id : String) : Option ModuleDescriptor :=
  graph.modules.reverse.find? fun module => module.id == id

def edges (graph : DependencyGraph) (id : String) : List String :=
  ((graph.get? id).map (·.dependencyIds)).getD []

def contains (graph : DependencyGraph) (id : String) : Bool :=
  (graph.get? id).isSome

def externalReferences (graph : DependencyGraph) : List (ModuleDescriptor × String) :=
  graph.modules.flatMap fun module =>
    (module.dependencyIds.filter fun id => !graph.contains id).map fun id => (module, id)

end DependencyGraph

/-! ## Flattening -/

/-- What a flattening has come to: the paths met, and their order with the last one in front. -/
structure Trail where
  visited : Std.HashSet String
  order : List String

namespace Trail

def start : Trail :=
  ⟨∅, []⟩

def reach (trail : Trail) (id : String) : Trail :=
  ⟨trail.visited.insert id, id :: trail.order⟩

end Trail

namespace DependencyGraph

def unvisited (graph : DependencyGraph) (trail : Trail) : List ModuleDescriptor :=
  graph.modules.filter fun module => !trail.visited.contains module.id

theorem unvisited_reach (graph : DependencyGraph) (trail : Trail) (id : String) :
    graph.unvisited (trail.reach id) =
      (graph.unvisited trail).filter fun module => !(id == module.id) := by
  simp only [unvisited, Trail.reach, List.filter_filter, Std.HashSet.contains_insert,
    Bool.not_or]

theorem edges_eq_nil_of_get?_eq_none {graph : DependencyGraph} {id : String}
    (unknown : graph.get? id = none) : graph.edges id = [] := by
  simp [edges, unknown]

/-- A module that is met for the first time leaves fewer modules to meet. -/
theorem length_unvisited_reach_lt {graph : DependencyGraph} {trail : Trail} {id : String}
    {found : ModuleDescriptor} (known : graph.get? id = some found)
    (fresh : trail.visited.contains id = false) :
    (graph.unvisited (trail.reach id)).length < (graph.unvisited trail).length := by
  rw [unvisited_reach, List.length_filter_lt_length_iff_exists]
  have same : found.id = id := by
    simpa using List.find?_some known
  have member : found ∈ graph.modules := by
    simpa using List.mem_of_find?_eq_some known
  exact ⟨found, by simp [unvisited, member, same, fresh], by simp [same]⟩

/-- Follows paths that are still to be met. The edges of a path that is new go first. -/
def follow (graph : DependencyGraph) : List String → Trail → Trail
  | [], trail => trail
  | id :: pending, trail =>
      if trail.visited.contains id then graph.follow pending trail
      else graph.follow (graph.edges id ++ pending) (trail.reach id)
termination_by pending trail => ((graph.unvisited trail).length, pending.length)
decreasing_by
  · exact Prod.Lex.right _ (by simp)
  · rename_i fresh
    cases known : graph.get? id with
    | some found =>
        exact Prod.Lex.left _ _ (length_unvisited_reach_lt known (by simpa using fresh))
    | none =>
        -- A path outside the compilation has no edges, and no module is met with it.
        rw [edges_eq_nil_of_get?_eq_none known, unvisited_reach]
        rcases Nat.lt_or_eq_of_le (List.length_filter_le (fun module => !(id == module.id))
          (graph.unvisited trail)) with fewer | same
        · exact Prod.Lex.left _ _ fewer
        · rw [same]
          exact Prod.Lex.right _ (by simp)

def order (graph : DependencyGraph) (roots : List String) : List String :=
  (graph.follow roots .start).order

def flatten (graph : DependencyGraph) (roots : List String) : List Node :=
  (graph.order roots).map fun id =>
    match graph.get? id with
    | some found => .module found
    | none => .external id

end DependencyGraph

end Wiring.Plan
