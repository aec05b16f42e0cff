import Mathlib.Data.List.Lex
import Mathlib.Data.String.Basic
import Wiring.Proofs.Workspace.Places
import Wiring.Workspace.Sources

/-!
# The source files of a tree

The files of a source directory are listed in the order of their paths, component by component, and
the order in which directories list their entries does not show. See `sourceFiles_exact`.
-/

set_option autoImplicit false

namespace Wiring.Workspace

open Wiring.Files
open Wiring.Text

/-! ## The order of paths -/

/-- The kinds of components: the root, a dot, two dots, and names. -/
def componentRank (part : String) : Nat :=
  if part = "/" then 0 else if part = "." then 1 else if part = ".." then 2 else 3

/-- Components by their kinds, and names by their texts. -/
def ComponentBefore (left right : String) : Prop :=
  componentRank left < componentRank right ∨
    (componentRank left = componentRank right ∧ left < right)

instance decidableComponentBefore : DecidableRel ComponentBefore :=
  fun _ _ => inferInstanceAs (Decidable (_ ∨ _))

/-- Paths by their components, of which the first ones that differ decide. -/
def PathBefore (left right : String) : Prop :=
  List.Lex ComponentBefore (components left) (components right)

instance decidablePathBefore : DecidableRel PathBefore :=
  fun _ _ => inferInstanceAs (Decidable (List.Lex _ _ _))

theorem ComponentBefore.asymm {left right : String} (before : ComponentBefore left right) :
    ¬ComponentBefore right left := by
  rintro (lower | ⟨same, less⟩)
  · rcases before with higher | ⟨same, -⟩ <;> omega
  · rcases before with higher | ⟨-, more⟩
    · omega
    · exact lt_asymm less more

instance asymmComponentBefore : Std.Asymm ComponentBefore :=
  ⟨fun _ _ before => before.asymm⟩

theorem PathBefore.asymm {left right : String} (before : PathBefore left right) :
    ¬PathBefore right left :=
  Std.Asymm.asymm (r := List.Lex ComponentBefore) _ _ before

theorem PathBefore.ne {left right : String} (before : PathBefore left right) : left ≠ right := by
  rintro rfl
  exact before.asymm before

theorem componentRank_of_isName {name : String} (named : IsName name) (inside : name ≠ "..") :
    componentRank name = 3 := by
  have noRoot : name ≠ "/" := by
    rintro rfl
    exact named.2.2 (by decide)
  simp [componentRank, noRoot, named.2.1, inside]

/-! ## Paths below a directory -/

def pathBelow (root : String) (place : Location) : String :=
  place.foldl join root

theorem components_pathBelow {root : String} {place : Location}
    (named : ∀ name ∈ place, IsName name) :
    components (pathBelow root place) = components root ++ place := by
  induction place generalizing root with
  | nil => simp [pathBelow]
  | cons name rest ih =>
      obtain ⟨first, later⟩ := List.forall_mem_cons.mp named
      change components (pathBelow (join root name) rest) = _
      rw [ih later, components_join _ first, List.append_assoc, List.singleton_append]

theorem pathBelow_inj {root : String} {left right : Location}
    (leftNamed : ∀ name ∈ left, IsName name) (rightNamed : ∀ name ∈ right, IsName name)
    (same : pathBelow root left = pathBelow root right) : left = right := by
  have parts := congrArg components same
  rw [components_pathBelow leftNamed, components_pathBelow rightNamed] at parts
  exact List.append_cancel_left parts

/-- The path of a location below a directory leads to what stands at the location. -/
theorem node_pathBelow {workspace : Workspace} {root : String} {tree found : Node}
    (denoted : workspace.node root = .ok tree) (formed : tree.WellFormed) {place : Location}
    (stands : tree.get? place = some found) :
    workspace.node (pathBelow root place) = .ok found := by
  induction place generalizing root tree with
  | nil =>
      rw [Node.get?_nil] at stands
      cases stands
      exact denoted
  | cons name rest ih =>
      cases tree with
      | file contents => cases stands
      | directory entries =>
          rw [Node.get?_directory_cons] at stands
          obtain ⟨child, named, below⟩ := Option.bind_eq_some_iff.mp stands
          have member := mem_of_child? named
          obtain ⟨directory, opens, atDirectory⟩ := opens_of_node denoted
          have atEntry : workspace.root.get? (directory ++ [name]) = some child := by
            rw [Node.get?_append, atDirectory, Option.bind_some, Node.get?_directory_cons, named,
              Option.bind_some, Node.get?_nil]
          exact ih (opens.node_join (formed.named [] entries rfl _ member) atEntry)
            (formed.of_entry member) below

/-! ## Members -/

theorem isSourcePath_iff (path : String) :
    isSourcePath path = true ↔
      extension? path = some "rs" ∧ ¬generatedTail.toList <:+ path.toList := by
  rw [isSourcePath, Bool.and_eq_true, beq_iff_eq, Bool.not_eq_true', Bool.eq_false_iff, Ne,
    endsWith_iff]

theorem entrySources_eq (root : String) (entries : List (String × Node)) :
    entrySources root entries =
      entries.map fun entry => (entry.1, sourcesBelow (join root entry.1) entry.2) := by
  induction entries with
  | nil => rfl
  | cons entry entries ih => rw [entrySources, ih, List.map_cons]

theorem mem_sourcesBelow_directory {root path : String} {entries : List (String × Node)} :
    path ∈ sourcesBelow root (.directory entries) ↔
      ∃ entry ∈ entries, path ∈ sourcesBelow (join root entry.1) entry.2 := by
  rw [sourcesBelow, byName, entrySources_eq]
  simp only [List.mem_flatMap, List.mem_mergeSort, List.mem_map, exists_exists_and_eq_and]

theorem mem_sourcesBelow {tree : Node} (formed : tree.WellFormed) {root path : String} :
    path ∈ sourcesBelow root tree ↔
      ∃ place contents, tree.get? place = some (.file contents) ∧ path = pathBelow root place ∧
        isSourcePath path = true := by
  induction tree using Node.induct generalizing root with
  | ofFile contents =>
      constructor
      · intro member
        rw [sourcesBelow] at member
        split at member
        · rename_i source
          rw [List.mem_singleton] at member
          exact ⟨[], contents, rfl, member, member ▸ source⟩
        · cases member
      · rintro ⟨place, _, found, rfl, source⟩
        cases place with
        | nil =>
            change isSourcePath root = true at source
            rw [sourcesBelow, if_pos source]
            exact List.mem_cons_self
        | cons name rest => cases found
  | ofDirectory entries ih =>
      rw [mem_sourcesBelow_directory]
      constructor
      · rintro ⟨entry, member, listed⟩
        obtain ⟨place, contents, found, rfl, source⟩ :=
          (ih entry member (formed.of_entry member)).mp listed
        have child := child?_of_mem (formed.distinct [] entries rfl) member
        refine ⟨entry.1 :: place, contents, ?_, rfl, source⟩
        rw [Node.get?_directory_cons, child, Option.bind_some, found]
      · rintro ⟨place, contents, found, rfl, source⟩
        cases place with
        | nil => cases found
        | cons name rest =>
            rw [Node.get?_directory_cons] at found
            obtain ⟨child, named, inside⟩ := Option.bind_eq_some_iff.mp found
            have member := mem_of_child? named
            exact ⟨_, member, (ih _ member (formed.of_entry member)).mpr
              ⟨rest, contents, inside, rfl, source⟩⟩

/-! ## Order -/

theorem pairwise_byName {α : Type} {entries : List (String × α)}
    (distinct : (entries.map (·.1)).Nodup) :
    (byName entries).Pairwise fun left right => left.1 < right.1 := by
  have transitive : ∀ left middle right : String × α, decide (left.1 ≤ middle.1) = true →
      decide (middle.1 ≤ right.1) = true → decide (left.1 ≤ right.1) = true := by
    intro left middle right first second
    exact decide_eq_true ((of_decide_eq_true first).trans (of_decide_eq_true second))
  have total : ∀ left right : String × α,
      (decide (left.1 ≤ right.1) || decide (right.1 ≤ left.1)) = true := by
    intro left right
    simpa using le_total left.1 right.1
  have sorted : (byName entries).Pairwise fun left right => decide (left.1 ≤ right.1) = true :=
    List.pairwise_mergeSort transitive total entries
  have once : (byName entries).Pairwise fun left right => left.1 ≠ right.1 := by
    have names : ((byName entries).map (·.1)).Nodup :=
      ((List.mergeSort_perm entries _).map _).nodup_iff.mpr distinct
    exact List.pairwise_map.mp names
  refine (sorted.and once).imp fun both => ?_
  exact lt_of_le_of_ne (of_decide_eq_true both.1) both.2

theorem components_of_mem_sourcesBelow {tree : Node} (formed : tree.WellFormed)
    {root path : String} (listed : path ∈ sourcesBelow root tree) :
    ∃ place, components path = components root ++ place := by
  obtain ⟨place, contents, found, rfl, -⟩ := (mem_sourcesBelow formed).mp listed
  exact ⟨place, components_pathBelow (formed.isName (by rw [found]; rfl))⟩

theorem pathBefore_of_entries {root left right : String} {first second : String × Node}
    (less : first.1 < second.1) (firstNamed : IsName first.1 ∧ first.1 ≠ "..")
    (secondNamed : IsName second.1 ∧ second.1 ≠ "..") (firstFormed : first.2.WellFormed)
    (secondFormed : second.2.WellFormed) (inFirst : left ∈ sourcesBelow (join root first.1) first.2)
    (inSecond : right ∈ sourcesBelow (join root second.1) second.2) : PathBefore left right := by
  obtain ⟨leftPlace, leftParts⟩ := components_of_mem_sourcesBelow firstFormed inFirst
  obtain ⟨rightPlace, rightParts⟩ := components_of_mem_sourcesBelow secondFormed inSecond
  rw [components_join _ firstNamed.1, List.append_assoc, List.singleton_append] at leftParts
  rw [components_join _ secondNamed.1, List.append_assoc, List.singleton_append] at rightParts
  have ranks : componentRank first.1 = componentRank second.1 := by
    rw [componentRank_of_isName firstNamed.1 firstNamed.2,
      componentRank_of_isName secondNamed.1 secondNamed.2]
  rw [PathBefore, leftParts, rightParts]
  exact List.Lex.append_left _ (.rel (.inr ⟨ranks, less⟩)) _

theorem pairwise_sourcesBelow {tree : Node} (formed : tree.WellFormed) (root : String) :
    (sourcesBelow root tree).Pairwise PathBefore := by
  induction tree using Node.induct generalizing root with
  | ofFile contents =>
      rw [sourcesBelow]
      split
      · exact List.pairwise_singleton _ _
      · exact List.Pairwise.nil
  | ofDirectory entries ih =>
      rw [sourcesBelow, entrySources_eq]
      have distinct : ((entries.map fun entry =>
          (entry.1, sourcesBelow (join root entry.1) entry.2)).map (·.1)).Nodup := by
        rw [List.map_map]
        exact formed.distinct [] entries rfl
      have ofEntry : ∀ listed ∈ byName (entries.map fun entry =>
          (entry.1, sourcesBelow (join root entry.1) entry.2)),
          ∃ entry ∈ entries, (entry.1, sourcesBelow (join root entry.1) entry.2) = listed := by
        intro listed member
        rw [byName, List.mem_mergeSort] at member
        exact List.mem_map.mp member
      rw [List.pairwise_flatMap]
      constructor
      · intro listed member
        obtain ⟨entry, among, rfl⟩ := ofEntry listed member
        exact ih entry among (formed.of_entry among) _
      · refine (pairwise_byName distinct).imp_of_mem fun {one two} first second less => ?_
        obtain ⟨entry, among, rfl⟩ := ofEntry one first
        obtain ⟨other, amongOther, rfl⟩ := ofEntry two second
        intro left inLeft right inRight
        exact pathBefore_of_entries less (formed.named [] entries rfl entry among)
          (formed.named [] entries rfl other amongOther) (formed.of_entry among)
          (formed.of_entry amongOther) inLeft inRight

theorem eq_of_pairwise_pathBefore {left right : List String} (leftSorted : left.Pairwise PathBefore)
    (rightSorted : right.Pairwise PathBefore) (same : ∀ path, path ∈ left ↔ path ∈ right) :
    left = right := by
  have once {paths : List String} (sorted : paths.Pairwise PathBefore) : paths.Nodup :=
    sorted.imp PathBefore.ne
  exact ((List.perm_ext_iff_of_nodup (once leftSorted) (once rightSorted)).mpr same).eq_of_pairwise
    (fun _ _ _ _ before after => absurd after before.asymm) leftSorted rightSorted

/-! ## Source files -/

/-- What some paths are that list the source files of a directory tree: those of its files that
have the extension of sources and are not generated, each once, in the order of paths. -/
structure Lists (workspace : Workspace) (root : String) (tree : Node) (files : List String) :
    Prop where
  exact : ∀ path, path ∈ files ↔ ∃ place contents, tree.get? place = some (.file contents) ∧
    path = pathBelow root place ∧ extension? path = some "rs" ∧
      ¬generatedTail.toList <:+ path.toList
  /-- The path of a file denotes it, and no other file has that path. -/
  denotes : ∀ place contents, tree.get? place = some (.file contents) →
    workspace.contents (pathBelow root place) = .ok contents
  apart : ∀ left right, (tree.get? left).isSome → (tree.get? right).isSome →
    pathBelow root left = pathBelow root right → left = right
  once : files.Nodup
  ascending : files.Pairwise PathBefore

/-- The source files of a project are those of its source directory, in the order of their paths.
Another order of entries in the directories makes no difference. -/
theorem sourceFiles_exact {workspace : Workspace} {settings : Settings} {tree : Node}
    (denoted : workspace.node settings.sourcePath = .ok tree) (formed : tree.WellFormed) :
    ∃ files, workspace.sourceFiles settings = .ok files ∧
      workspace.Lists settings.sourcePath tree files ∧
      ∀ (other : Workspace) (relisted : Node),
        other.node settings.sourcePath = .ok relisted → tree.Relisted relisted →
          other.sourceFiles settings = .ok files := by
  have listed {workspace : Workspace} {tree : Node}
      (denoted : workspace.node settings.sourcePath = .ok tree) :
      workspace.sourceFiles settings = .ok (sourcesBelow settings.sourcePath tree) := by
    rw [sourceFiles, denoted]
  have ascending := pairwise_sourcesBelow formed settings.sourcePath
  refine ⟨sourcesBelow settings.sourcePath tree, listed denoted, ?_, ?_⟩
  · constructor
    · intro path
      rw [mem_sourcesBelow formed]
      simp only [isSourcePath_iff]
    · intro place contents stands
      exact contents_eq_ok_iff.mpr (node_pathBelow denoted formed stands)
    · intro left right inLeft inRight same
      exact pathBelow_inj (formed.isName inLeft) (formed.isName inRight) same
    · exact ascending.imp PathBefore.ne
    · exact ascending
  · intro other relisted denotedThere same
    have formedThere := same.wellFormed formed
    rw [listed denotedThere]
    refine congrArg _ (eq_of_pairwise_pathBefore (pairwise_sourcesBelow formedThere _) ascending
      fun path => ?_)
    rw [mem_sourcesBelow formedThere, mem_sourcesBelow formed]
    simp only [same.get?_eq_file_iff]

def billingEntries : List (String × Node) :=
  [("bill.rs", .file .empty), ("bill-all.rs", .file .empty), ("bill.g.rs", .file .empty),
    ("bill", .directory [("mod.rs", .file .empty), ("notes.txt", .file .empty)])]

def billingWorkspace (entries : List (String × Node)) : Workspace :=
  ⟨.directory [("src", .directory entries)], []⟩

theorem sourceFiles_exact_billing :
    ∃ files, (billingWorkspace billingEntries).sourceFiles .default = .ok files ∧
      "./src/bill/mod.rs" ∈ files ∧ "./src/bill.rs" ∈ files ∧ "./src/bill.g.rs" ∉ files ∧
      files.Pairwise PathBefore ∧ PathBefore "./src/bill/mod.rs" "./src/bill.rs" ∧
      (billingWorkspace billingEntries.reverse).sourceFiles .default = .ok files := by
  have source : Settings.default.sourcePath = "./src" := by decide
  have denoted (entries : List (String × Node)) :
      (billingWorkspace entries).node Settings.default.sourcePath = .ok (.directory entries) := by
    rw [source]
    rfl
  have distinct : (billingEntries.map (·.1)).Nodup := by decide
  have formed : (Node.directory billingEntries).WellFormed := by
    refine .ofDirectory distinct (by simp [billingEntries, IsName]) fun entry member => ?_
    simp only [billingEntries, List.mem_cons, List.not_mem_nil, or_false] at member
    rcases member with rfl | rfl | rfl | rfl
    · exact .ofFile _
    · exact .ofFile _
    · exact .ofFile _
    · refine .ofDirectory (by decide) (by simp [IsName]) fun entry member => ?_
      simp only [List.mem_cons, List.not_mem_nil, or_false] at member
      rcases member with rfl | rfl <;> exact .ofFile _
  obtain ⟨files, listed, lists, relisted⟩ := sourceFiles_exact (denoted billingEntries) formed
  have generated : extension? "./src/bill.g.rs" = some "rs" ∧
      generatedTail.toList <:+ "./src/bill.g.rs".toList := by decide
  refine ⟨files, listed, ?_, ?_, ?_, lists.ascending, by decide,
    relisted _ _ (denoted _) (.of_perm distinct (List.reverse_perm _).symm)⟩
  · exact (lists.exact _).mpr ⟨["bill", "mod.rs"], .empty, rfl, by decide, by decide, by decide⟩
  · exact (lists.exact _).mpr ⟨["bill.rs"], .empty, rfl, by decide, by decide, by decide⟩
  · intro member
    obtain ⟨-, -, -, -, -, fresh⟩ := (lists.exact _).mp member
    exact fresh generated.2

end Wiring.Workspace
