import Wiring.Proofs.Plan.DependencyGraph
import Wiring.Proofs.Walk.Closure

/-!
# What flattening gives

Following paths is the run of a walk over paths, so the paths met are exactly those that can be
reached, each of them once and in front of one that leads to it.  See `flatten_exact`.
-/

set_option autoImplicit false

namespace Wiring.Plan

def Trail.walk (trail : Trail) : Walk String Empty :=
  ⟨trail.order, [], none⟩

namespace DependencyGraph

variable {graph : DependencyGraph}

/-! ## Following paths as a walk -/

def pathRules (graph : DependencyGraph) : WalkRules String Empty where
  covers earlier id := earlier == id
  references id := (graph.edges id).map .direct

theorem pathRules_leads_iff (id next : String) :
    graph.pathRules.Leads id next ↔ next ∈ graph.edges id := by
  constructor
  · rintro ⟨reference, listed, outcome⟩
    exact mem_of_direct listed outcome
  · intro edge
    exact ⟨.direct next, List.mem_map_of_mem edge, rfl⟩

theorem isCovered_walk_iff (trail : Trail) (id : String) :
    trail.walk.isCovered graph.pathRules id = true ↔ id ∈ trail.order := by
  simp [Walk.isCovered_iff, Trail.walk, pathRules]

theorem runs_follow (pending : List String) {trail : Trail} (consistent : trail.Consistent) :
    Walk.Runs graph.pathRules trail.walk (pending.map .direct)
      (graph.follow pending trail).walk := by
  fun_induction graph.follow pending trail with
  | case1 trail => exact Walk.Runs.nil trail.walk
  | case2 id rest trail known ih =>
      have covered : trail.walk.isCovered graph.pathRules id = true := by
        rw [isCovered_walk_iff]
        exact (consistent id).mp known
      exact Walk.Runs.covered rfl rfl covered (ih consistent)
  | case3 id rest trail fresh ih =>
      have uncovered : trail.walk.isCovered graph.pathRules id = false := by
        rw [Bool.eq_false_iff, Ne, isCovered_walk_iff, ← consistent id]
        exact fresh
      have run := ih (consistent.reach id)
      rw [List.map_append] at run
      -- The edges of the new path are followed before what was pending.
      obtain ⟨middle, below, later⟩ := run.of_append
      exact Walk.Runs.placed rfl rfl uncovered below later

theorem runs_order (roots : List String) :
    Walk.Runs graph.pathRules .start (roots.map .direct) (graph.follow roots .start).walk :=
  runs_follow roots Trail.consistent_start

/-! ## The paths met -/

theorem nodup_order (roots : List String) : (graph.order roots).Nodup := by
  have distinct := (graph.runs_order roots).distinct List.Pairwise.nil
  refine distinct.imp ?_
  intro front back apart same
  simp [pathRules, same] at apart

theorem order_led {roots front back : List String} {id : String}
    (split : graph.order roots = front ++ id :: back) :
    id ∈ roots ∨ ∃ leader ∈ back, id ∈ graph.edges leader := by
  obtain ⟨reference, met, outcome⟩ :=
    (graph.runs_order roots).grounded_of_start.led front id back split
  rcases met with start | ⟨leader, behind, listed⟩
  · exact Or.inl (mem_of_direct start outcome)
  · exact Or.inr ⟨leader, behind, mem_of_direct listed outcome⟩

theorem order_closed (roots : List String) :
    (∀ root ∈ roots, root ∈ graph.order roots) ∧
      ∀ id ∈ graph.order roots, ∀ next ∈ graph.edges id, next ∈ graph.order roots := by
  have settled : ∀ id, Walk.Settled graph.pathRules (graph.follow roots .start).walk (.direct id) →
      id ∈ graph.order roots := by
    rintro id ⟨found, outcome, covered⟩
    obtain rfl : id = found := Except.ok.inj outcome
    exact (isCovered_walk_iff _ id).mp covered
  obtain ⟨rootsSettled, placedSettled⟩ :=
    (graph.runs_order roots).settled (fun id => by simp [pathRules]) rfl
  refine ⟨?_, ?_⟩
  · intro root member
    exact settled root (rootsSettled _ (List.mem_map_of_mem member))
  · intro id member next edge
    rcases placedSettled id member with early | below
    · simp [Walk.start] at early
    · exact settled next (below _ (List.mem_map_of_mem edge))

theorem mem_order_iff (roots : List String) (id : String) :
    id ∈ graph.order roots ↔
      ∃ root ∈ roots, Relation.ReflTransGen (fun id next => next ∈ graph.edges id) root id := by
  have leads : graph.pathRules.Leads = fun id next => next ∈ graph.edges id := by
    funext id next
    exact propext (pathRules_leads_iff id next)
  constructor
  · intro member
    obtain ⟨root, rootMember, reaches⟩ :=
      (graph.runs_order roots).grounded_of_start.reachable id member
    rw [WalkRules.Reaches, leads] at reaches
    exact ⟨root, rootMember, reaches⟩
  · rintro ⟨root, rootMember, reaches⟩
    obtain ⟨rootsMet, edgesMet⟩ := graph.order_closed roots
    induction reaches with
    | refl => exact rootsMet root rootMember
    | tail _ edge ih => exact edgesMet _ ih _ edge

/-- More roots only put paths in front. -/
theorem order_suffix (roots more : List String) :
    graph.order roots <:+ graph.order (roots ++ more) := by
  have run := graph.runs_order (roots ++ more)
  rw [List.map_append] at run
  obtain ⟨middle, front, back⟩ := run.of_append
  rw [(graph.runs_order roots).deterministic front] at back
  exact back.suffix

/-! ## The nodes -/

/-- A path depends on the paths that the module of this path refers to or adds. -/
def DependsOn (graph : DependencyGraph) (id next : String) : Prop :=
  ∃ module ∈ graph.modules, module.id = id ∧ next ∈ module.dependencyIds

theorem mem_edges_iff (distinct : (graph.modules.map ModuleDescriptor.id).Nodup)
    (id next : String) : next ∈ graph.edges id ↔ graph.DependsOn id next := by
  constructor
  · intro edge
    obtain ⟨module, found, depends⟩ := exists_get?_of_mem_edges edge
    exact ⟨module, mem_of_get? found, id_of_get? found, depends⟩
  · rintro ⟨module, member, rfl, edge⟩
    simpa [edges, get?_id distinct member] using edge

def nodeAt (graph : DependencyGraph) (id : String) : Node :=
  match graph.get? id with
  | some found => .module found
  | none => .external id

theorem flatten_eq_map (roots : List String) :
    graph.flatten roots = (graph.order roots).map graph.nodeAt :=
  rfl

theorem nodeAt_id (id : String) : (graph.nodeAt id).id = id := by
  unfold nodeAt
  cases found : graph.get? id with
  | some module => exact id_of_get? found
  | none => rfl

theorem nodeAt_eq_module {id : String} {module : ModuleDescriptor}
    (isModule : graph.nodeAt id = .module module) : graph.get? id = some module := by
  unfold nodeAt at isModule
  cases found : graph.get? id with
  | some other =>
      rw [found] at isModule
      rw [Node.module.inj isModule]
  | none => simp [found] at isModule

theorem nodeAt_eq_external {id path : String} (isExternal : graph.nodeAt id = .external path) :
    id = path ∧ graph.get? id = none := by
  unfold nodeAt at isExternal
  cases found : graph.get? id with
  | some other => simp [found] at isExternal
  | none =>
      rw [found] at isExternal
      exact ⟨Node.external.inj isExternal, rfl⟩

/-- Nodes are those below some roots. -/
structure Flattened (graph : DependencyGraph) (roots : List String) (nodes : List Node) :
    Prop where
  once : (nodes.map Node.id).Nodup
  /-- Exactly what can be reached is there. -/
  reached : ∀ id, id ∈ nodes.map Node.id ↔
    ∃ root ∈ roots, Relation.ReflTransGen graph.DependsOn root id
  modules : ∀ module, .module module ∈ nodes → module ∈ graph.modules
  external : ∀ node ∈ nodes,
    (∃ id, node = .external id) ↔ node.id ∉ graph.modules.map ModuleDescriptor.id
  leaf : ∀ id, .external id ∈ nodes → ∀ next, ¬graph.DependsOn id next
  referenced : ∀ id, .external id ∈ nodes → id ∉ roots →
    ∃ module, .module module ∈ nodes ∧ (module, id) ∈ graph.externalReferences
  /-- A node stands in front of one that has an edge to it. -/
  led : ∀ front node back, nodes = front ++ node :: back →
    node.id ∈ roots ∨ ∃ leader ∈ back, graph.DependsOn leader.id node.id

theorem mem_flatten_external {roots : List String} {id : String}
    (member : .external id ∈ graph.flatten roots) :
    id ∈ graph.order roots ∧ graph.get? id = none := by
  rw [flatten_eq_map, List.mem_map] at member
  obtain ⟨path, met, isExternal⟩ := member
  obtain ⟨rfl, unknown⟩ := nodeAt_eq_external isExternal
  exact ⟨met, unknown⟩

/-- A module outside the compilation that is no root is referred to by a module that is met. -/
theorem externalReference_of_mem {roots : List String} {id : String}
    (member : .external id ∈ graph.flatten roots) (noRoot : id ∉ roots) :
    ∃ module, .module module ∈ graph.flatten roots ∧ (module, id) ∈ graph.externalReferences := by
  obtain ⟨met, unknown⟩ := mem_flatten_external member
  obtain ⟨front, back, split⟩ := List.append_of_mem met
  obtain ⟨leader, behind, edge⟩ := (order_led split).resolve_left noRoot
  obtain ⟨module, found, depends⟩ := exists_get?_of_mem_edges edge
  have leaderMet : leader ∈ graph.order roots := by
    rw [split]
    exact List.mem_append_right _ (List.mem_cons_of_mem _ behind)
  refine ⟨module, ?_, ?_⟩
  · rw [flatten_eq_map, List.mem_map]
    exact ⟨leader, leaderMet, by simp [nodeAt, found]⟩
  · simp only [externalReferences, List.mem_flatMap, List.mem_map, List.mem_filter]
    exact ⟨module, mem_of_get? found, id, ⟨depends, by simp [contains, unknown]⟩, rfl⟩

/-- Where no two modules have one path, flattening gives each path that can be reached from the
roots once and nothing else; the external nodes are the paths of no module, without edges, and but
for roots they are external references of modules that are there; every node but the roots stands
in front of one that has an edge to it; and more roots only put nodes in front. -/
theorem flatten_exact (graph : DependencyGraph)
    (distinct : (graph.modules.map ModuleDescriptor.id).Nodup) (roots more : List String) :
    graph.Flattened roots (graph.flatten roots) ∧
      graph.flatten roots <:+ graph.flatten (roots ++ more) := by
  have depends : (fun id next => next ∈ graph.edges id) = graph.DependsOn := by
    funext id next
    exact propext (mem_edges_iff distinct id next)
  refine ⟨⟨?_, ?_, ?_, ?_, ?_, ?_, ?_⟩, ?_⟩
  · rw [flatten_ids]
    exact graph.nodup_order roots
  · intro id
    rw [flatten_ids, mem_order_iff, depends]
  · intro module member
    rw [flatten_eq_map, List.mem_map] at member
    obtain ⟨id, -, isModule⟩ := member
    exact mem_of_get? (nodeAt_eq_module isModule)
  · intro node member
    rw [flatten_eq_map, List.mem_map] at member
    obtain ⟨id, -, rfl⟩ := member
    rw [nodeAt_id, ← get?_eq_none_iff]
    constructor
    · rintro ⟨path, isExternal⟩
      exact (nodeAt_eq_external isExternal).2
    · intro unknown
      exact ⟨id, by simp [nodeAt, unknown]⟩
  · intro id member next depends
    obtain ⟨-, unknown⟩ := mem_flatten_external member
    rw [← mem_edges_iff distinct, edges_eq_nil_of_get?_eq_none unknown] at depends
    exact List.not_mem_nil depends
  · intro id member noRoot
    exact externalReference_of_mem member noRoot
  · intro front node back split
    have paths : graph.order roots = front.map Node.id ++ node.id :: back.map Node.id := by
      rw [← flatten_ids, split]
      simp
    rcases order_led paths with root | ⟨leader, behind, edge⟩
    · exact Or.inl root
    · obtain ⟨other, member, rfl⟩ := List.mem_map.mp behind
      exact Or.inr ⟨other, member, (mem_edges_iff distinct _ _).mp edge⟩
  · rw [flatten_eq_map, flatten_eq_map]
    exact (graph.order_suffix roots more).map _

def tangle : DependencyGraph where
  modules := [
    { module "App" ["Base", "Base", "Missing"] with
      additionalModules := [.of "app" "Extra"] },
    module "Base" ["App", "Base"],
    module "Extra" ["Missing", "Other"]]
where
  module (name : String) (references : List String) : ModuleDescriptor :=
    { ModuleDescriptor.ofType (.of "app" name) "src/lib.rs" with
      references := references.map fun name => ⟨.of "app" name, [], []⟩ }

theorem flatten_exact_tangle :
    (tangle.modules.map ModuleDescriptor.id).Nodup ∧
      (tangle.flatten ["app::Base", "gone::Lost"]).map Node.id =
        ["gone::Lost", "app::Other", "app::Extra", "app::Missing", "app::App", "app::Base"] ∧
      tangle.Flattened ["app::Base", "gone::Lost"] (tangle.flatten ["app::Base", "gone::Lost"]) ∧
      tangle.flatten ["app::Base", "gone::Lost"] <:+
        tangle.flatten ["app::Base", "gone::Lost", "app::Base", "app::New"] := by
  have distinct : (tangle.modules.map ModuleDescriptor.id).Nodup := by decide
  have app : tangle.edges "app::App" =
      ["app::Base", "app::Base", "app::Missing", "app::Extra"] := by decide
  have base : tangle.edges "app::Base" = ["app::App", "app::Base"] := by decide
  have extra : tangle.edges "app::Extra" = ["app::Missing", "app::Other"] := by decide
  have missing : tangle.edges "app::Missing" = [] := by decide
  have other : tangle.edges "app::Other" = [] := by decide
  have lost : tangle.edges "gone::Lost" = [] := by decide
  obtain ⟨flattened, suffix⟩ :=
    flatten_exact tangle distinct ["app::Base", "gone::Lost"] ["app::Base", "app::New"]
  refine ⟨distinct, ?_, flattened, suffix⟩
  rw [flatten_ids, order]
  simp [follow, app, base, extra, missing, other, lost, Trail.reach, Trail.start]

end DependencyGraph

end Wiring.Plan
