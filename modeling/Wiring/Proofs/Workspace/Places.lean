import Wiring.Proofs.Outcome
import Wiring.Proofs.Workspace.Paths
import Wiring.Proofs.Workspace.Trees

/-!
# Where paths lead

A path that leads somewhere leads there still when files and directories are added, a name joined to
the path of a directory leads to the entry of that name, and a path that leads to a file ends with
its name.
-/

set_option autoImplicit false

namespace Wiring.Workspace

open Wiring.Files

variable {workspace before after : Workspace} {place : Location} {name path : String}

/-! ## One name -/

theorem descend_of_directory (stands : workspace.root.standing? place = some .directory)
    (name : String) :
    workspace.descend place name =
      if name = "" ∨ name = "." then .ok place
      else if name = ".." then .ok place.dropLast
      else if (workspace.root.standing? (place ++ [name])).isSome then .ok (place ++ [name])
      else .error .notFound := by
  obtain ⟨entries, found⟩ := Node.standing?_eq_directory_iff.mp stands
  have child : (workspace.root.standing? (place ++ [name])).isSome =
      (child? name entries).isSome := by
    rw [Node.standing?_append, found, Option.bind_some, Node.standing?_cons]
    cases child? name entries with
    | none => rfl
    | some node => rw [Option.bind_some, Node.standing?, Node.get?_nil]; rfl
  rw [descend, found, child]
  simp only [Bool.or_eq_true, beq_iff_eq]

theorem directory_of_descend {target : Location}
    (leads : workspace.descend place name = .ok target) :
    workspace.root.standing? place = some .directory := by
  rw [Node.standing?_eq_directory_iff]
  unfold descend at leads
  split at leads
  · cases leads
  · cases leads
  · rename_i entries found
    exact ⟨entries, found⟩

/-- A proper name of an entry: neither empty nor a way of saying where one is. -/
def IsEntryName (name : String) : Prop :=
  IsName name ∧ name ≠ ".."

theorem descend_of_isEntryName (stands : workspace.root.standing? place = some .directory)
    (named : IsEntryName name) :
    workspace.descend place name =
      if (workspace.root.standing? (place ++ [name])).isSome then .ok (place ++ [name])
      else .error .notFound := by
  rw [descend_of_directory stands, if_neg (not_or.mpr ⟨named.1.1, named.1.2.1⟩), if_neg named.2]

/-! ## Several names -/

theorem follow_append (workspace : Workspace) (place : Location) (front back : List String) :
    workspace.follow place (front ++ back) =
      workspace.follow place front >>= fun reached => workspace.follow reached back := by
  induction front generalizing place with
  | nil => rfl
  | cons name front ih =>
      rw [List.cons_append, follow, follow]
      cases workspace.descend place name with
      | error fault => rfl
      | ok reached => exact ih reached

theorem follow_concat_eq_ok_iff {front : List String} {target : Location} :
    workspace.follow place (front ++ [name]) = .ok target ↔
      ∃ reached, workspace.follow place front = .ok reached ∧
        workspace.descend reached name = .ok target := by
  rw [follow_append, Outcome.bind_eq_ok_iff]
  refine exists_congr fun reached => and_congr_right fun _ => ?_
  simp only [follow]
  cases workspace.descend reached name <;> simp [bind, Except.bind]

/-! ## More than before -/

/-- What stands somewhere is still of its kind. -/
structure Keeps (before after : Workspace) : Prop where
  home : after.home = before.home
  directories : ∀ place, before.root.standing? place = some .directory →
    after.root.standing? place = some .directory
  others : ∀ place, (before.root.standing? place).isSome → (after.root.standing? place).isSome

theorem Keeps.refl (workspace : Workspace) : Keeps workspace workspace :=
  ⟨rfl, fun _ stands => stands, fun _ stands => stands⟩

theorem Keeps.trans {middle : Workspace} (first : Keeps before middle)
    (second : Keeps middle after) : Keeps before after :=
  ⟨second.home.trans first.home,
    fun place stands => second.directories place (first.directories place stands),
    fun place stands => second.others place (first.others place stands)⟩

theorem Keeps.descend (keeps : Keeps before after) {target : Location}
    (leads : before.descend place name = .ok target) : after.descend place name = .ok target := by
  have stands := directory_of_descend leads
  rw [descend_of_directory stands] at leads
  rw [descend_of_directory (keeps.directories place stands)]
  split at leads
  · rename_i stays
    rw [if_pos stays, leads]
  · rename_i moves
    rw [if_neg moves]
    split at leads
    · rename_i up
      rw [if_pos up, leads]
    · rename_i down
      rw [if_neg down]
      split at leads
      · rename_i there
        rw [if_pos (keeps.others _ there), leads]
      · cases leads

theorem Keeps.follow (keeps : Keeps before after) {names : List String} {target : Location}
    (leads : before.follow place names = .ok target) : after.follow place names = .ok target := by
  induction names generalizing place with
  | nil => exact leads
  | cons name names ih =>
      rw [Workspace.follow, Outcome.bind_eq_ok_iff] at leads ⊢
      obtain ⟨reached, first, later⟩ := leads
      exact ⟨reached, keeps.descend first, ih later⟩

theorem Keeps.start (keeps : Keeps before after) (path : String) :
    after.start path = before.start path := by
  rw [Workspace.start, Workspace.start, keeps.home]

theorem Keeps.locate (keeps : Keeps before after) (located : before.locate path = .ok place) :
    after.locate path = .ok place := by
  unfold Workspace.locate at located ⊢
  split at located
  · cases located
  · rename_i nonempty
    rw [if_neg nonempty, keeps.start, keeps.follow located]

/-! ## Nodes of paths -/

theorem node_eq_ok_iff {found : Node} :
    workspace.node path = .ok found ↔
      ∃ place, workspace.locate path = .ok place ∧ workspace.root.get? place = some found := by
  rw [node, Outcome.bind_eq_ok_iff]
  refine exists_congr fun place => and_congr_right fun _ => ?_
  cases stands : workspace.root.get? place with
  | none => simp
  | some node => simp [Outcome.pure_eq_ok_iff]

theorem contents_eq_ok_iff {contents : ByteArray} :
    workspace.contents path = .ok contents ↔ workspace.node path = .ok (.file contents) := by
  rw [Workspace.contents, Outcome.bind_eq_ok_iff]
  constructor
  · rintro ⟨node, found, stands⟩
    cases node with
    | file bytes =>
        obtain rfl := Except.ok.inj stands
        exact found
    | directory entries => cases stands
  · intro found
    exact ⟨_, found, rfl⟩

/-! ## Directories -/

/-- A path leads to a directory. The empty path leads to where relative paths start. -/
structure Opens (workspace : Workspace) (path : String) (place : Location) : Prop where
  leads : workspace.follow (workspace.start path) (pathNames path) = .ok place
  stands : workspace.root.standing? place = some .directory

theorem Opens.unique {other : Location} (opens : workspace.Opens path place)
    (others : workspace.Opens path other) : place = other :=
  Except.ok.inj (opens.leads.symm.trans others.leads)

theorem Keeps.opens (keeps : Keeps before after) (opens : before.Opens path place) :
    after.Opens path place :=
  ⟨keeps.start path ▸ keeps.follow opens.leads, keeps.directories place opens.stands⟩

theorem opens_of_node {entries : List (String × Node)}
    (found : workspace.node path = .ok (.directory entries)) :
    ∃ place, workspace.Opens path place ∧
      workspace.root.get? place = some (.directory entries) := by
  obtain ⟨place, located, stands⟩ := node_eq_ok_iff.mp found
  refine ⟨place, ⟨?_, Node.standing?_eq_directory_iff.mpr ⟨entries, stands⟩⟩, stands⟩
  unfold locate at located
  split at located
  · cases located
  · exact located

section Join

variable (base : String)

theorem start_join (named : IsName name) :
    workspace.start (join base name) = workspace.start base := by
  rw [start, start, isAbsolute_join base named]

theorem opens_iff_of_join (workspace : Workspace) (named : IsName name) :
    ∃ front, pathNames (join base name) = front ++ [name] ∧
      ∀ place, workspace.Opens base place ↔
        workspace.follow (workspace.start (join base name)) front = .ok place ∧
          workspace.root.standing? place = some .directory := by
  obtain ⟨front, joined, names⟩ := pathNames_join base named
  refine ⟨front, joined, fun place => ?_⟩
  rw [start_join base named]
  constructor
  · rintro ⟨leads, stands⟩
    refine ⟨?_, stands⟩
    rcases names with names | names
    · rwa [names] at leads
    · rw [names, follow_concat_eq_ok_iff] at leads
      obtain ⟨reached, leads, blank⟩ := leads
      rw [descend_of_directory (directory_of_descend blank), if_pos (.inl rfl)] at blank
      rw [leads, blank]
  · rintro ⟨leads, stands⟩
    refine ⟨?_, stands⟩
    rcases names with names | names
    · rwa [names]
    · rw [names, follow_concat_eq_ok_iff]
      exact ⟨place, leads, by rw [descend_of_directory stands, if_pos (.inl rfl)]⟩

theorem join_ne_empty (named : IsName name) : join base name ≠ "" := by
  intro empty
  have names := components_join base named
  rw [empty] at names
  have lengths := congrArg List.length names
  simp [components, splitAtChar, isAbsolute, Text.startsWith, Text.dropLeadChars?] at lengths

variable {base}

theorem Opens.locate_join (opens : workspace.Opens base place) (named : IsEntryName name)
    (there : (workspace.root.standing? (place ++ [name])).isSome) :
    workspace.locate (join base name) = .ok (place ++ [name]) := by
  obtain ⟨front, joined, opens_iff⟩ := opens_iff_of_join base workspace named.1
  have leads := ((opens_iff place).mp opens).1
  rw [locate, if_neg (by simpa using join_ne_empty base named.1), joined, follow_concat_eq_ok_iff]
  exact ⟨place, leads, by rw [descend_of_isEntryName opens.stands named, if_pos there]⟩

theorem Opens.node_join (opens : workspace.Opens base place) (named : IsEntryName name)
    {found : Node} (stands : workspace.root.get? (place ++ [name]) = some found) :
    workspace.node (join base name) = .ok found := by
  refine node_eq_ok_iff.mpr ⟨place ++ [name], opens.locate_join named ?_, stands⟩
  rw [Node.standing?, stands]
  rfl

end Join

/-! ## Files -/

theorem standing?_dropLast {tree : Node}
    (stands : tree.standing? place = some .directory) :
    tree.standing? place.dropLast = some .directory := by
  rcases List.eq_nil_or_concat place with rfl | ⟨front, last, rfl⟩
  · exact stands
  · rw [List.concat_eq_append, List.dropLast_concat]
    by_contra noDirectory
    rw [List.concat_eq_append, Node.standing?_below noDirectory last []] at stands
    cases stands

theorem getLast?_of_locate {contents : ByteArray} (located : workspace.locate path = .ok place)
    (stands : workspace.root.standing? place = some (.file contents)) :
    (pathNames path).getLast? = place.getLast? := by
  unfold locate at located
  split at located
  · cases located
  · obtain ⟨front, last, names⟩ : ∃ front last, pathNames path = front ++ [last] := by
      have nonempty : pathNames path ≠ [] := by
        simp [pathNames, splitAtChar_ne_nil]
      exact ⟨_, _, (List.dropLast_append_getLast nonempty).symm⟩
    rw [names, follow_concat_eq_ok_iff] at located
    obtain ⟨reached, -, leads⟩ := located
    have inside := directory_of_descend leads
    rw [descend_of_directory inside] at leads
    rw [names, List.getLast?_concat]
    split at leads
    · obtain rfl := Except.ok.inj leads
      rw [inside] at stands
      cases stands
    · split at leads
      · obtain rfl := Except.ok.inj leads
        rw [standing?_dropLast inside] at stands
        cases stands
      · split at leads
        · obtain rfl := Except.ok.inj leads
          rw [List.getLast?_concat]
        · cases leads

end Wiring.Workspace
