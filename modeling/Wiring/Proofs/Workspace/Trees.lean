import Wiring.Proofs.Files.Canonical
import Wiring.Workspace.Node

/-!
# Directory trees by location

What a directory tree holds is told by what stands at each of its locations. Well-formed trees have
proper names, each once in its directory, and trees that list their directories in another order
have the same things at the same locations.
-/

set_option autoImplicit false

namespace Wiring.Workspace

open Wiring.Files

/-! ## Entries -/

section Entries

variable {name other : String} {node : Node} {entries : List (String × Node)}

theorem child?_cons_self : child? name ((name, node) :: entries) = some node := by
  simp [child?]

theorem child?_cons_other (apart : other ≠ name) :
    child? name ((other, node) :: entries) = child? name entries := by
  simp [child?, apart]

theorem mem_of_child? (found : child? name entries = some node) : (name, node) ∈ entries := by
  obtain ⟨entry, first, rfl⟩ := Option.map_eq_some_iff.mp found
  have same : entry.1 = name := by simpa using List.find?_some first
  rw [← same]
  exact List.mem_of_find?_eq_some first

theorem child?_of_mem (distinct : (entries.map (·.1)).Nodup) (member : (name, node) ∈ entries) :
    child? name entries = some node := by
  induction entries with
  | nil => cases member
  | cons entry entries ih =>
      obtain ⟨other, old⟩ := entry
      rw [List.map_cons, List.nodup_cons] at distinct
      rcases List.mem_cons.mp member with first | later
      · cases first
        exact child?_cons_self
      · have apart : other ≠ name := by
          rintro rfl
          exact distinct.1 (List.mem_map.mpr ⟨_, later, rfl⟩)
        rw [child?_cons_other apart]
        exact ih distinct.2 later

theorem child?_putEntry_self : child? name (putEntry name node entries) = some node := by
  induction entries with
  | nil => exact child?_cons_self
  | cons entry entries ih =>
      obtain ⟨other, old⟩ := entry
      rw [putEntry]
      by_cases same : other = name
      · rw [if_pos (by simpa using same)]
        exact child?_cons_self
      · rw [if_neg (by simpa using same), child?_cons_other same, ih]

theorem child?_putEntry_other (apart : other ≠ name) :
    child? other (putEntry name node entries) = child? other entries := by
  induction entries with
  | nil => exact child?_cons_other (Ne.symm apart)
  | cons entry entries ih =>
      obtain ⟨first, old⟩ := entry
      rw [putEntry]
      by_cases same : first = name
      · subst same
        rw [if_pos (by simp), child?_cons_other (Ne.symm apart),
          child?_cons_other (Ne.symm apart)]
      · rw [if_neg (by simpa using same)]
        by_cases found : first = other
        · subst found
          rw [child?_cons_self, child?_cons_self]
        · rw [child?_cons_other found, child?_cons_other found, ih]

theorem child?_eq_none_iff : child? name entries = none ↔ name ∉ entries.map (·.1) := by
  simp only [child?, Option.map_eq_none_iff, List.find?_eq_none, beq_iff_eq, List.mem_map,
    not_exists, not_and]

end Entries

namespace Node

/-- What holds of files, and of a directory whenever it holds of its entries, holds of all trees. -/
theorem induct {motive : Node → Prop} (ofFile : ∀ contents, motive (.file contents))
    (ofDirectory : ∀ entries : List (String × Node), (∀ entry ∈ entries, motive entry.2) →
      motive (.directory entries)) : ∀ tree, motive tree
  | .file contents => ofFile contents
  | .directory entries => ofDirectory entries fun entry member =>
      have smaller : sizeOf entry.2 < sizeOf (Node.directory entries) := by
        have first := List.sizeOf_lt_of_mem member
        have second : sizeOf entry = 1 + sizeOf entry.1 + sizeOf entry.2 := rfl
        rw [Node.directory.sizeOf_spec]
        omega
      induct ofFile ofDirectory entry.2
termination_by tree => sizeOf tree
decreasing_by exact smaller

/-! ## Locations -/

theorem get?_nil (tree : Node) : tree.get? [] = some tree := by
  cases tree <;> rfl

theorem get?_directory_cons (entries : List (String × Node)) (name : String) (rest : Location) :
    (Node.directory entries).get? (name :: rest) =
      (child? name entries).bind fun child => child.get? rest :=
  rfl

theorem get?_append (tree : Node) (front back : Location) :
    tree.get? (front ++ back) = (tree.get? front).bind fun node => node.get? back := by
  induction front generalizing tree with
  | nil => rw [List.nil_append, get?_nil, Option.bind_some]
  | cons name front ih =>
      cases tree with
      | file contents => rfl
      | directory entries =>
          rw [List.cons_append, get?_directory_cons, get?_directory_cons, Option.bind_assoc]
          exact congrArg _ (funext fun child => ih child)

/-- What stands at a location: a file with its contents, or a directory whatever is in it. -/
inductive Stand where
  | file (contents : ByteArray)
  | directory

def stand : Node → Stand
  | .file contents => .file contents
  | .directory _ => .directory

/-- What stands at a location of a tree. -/
def standing? (tree : Node) (place : Location) : Option Stand :=
  (tree.get? place).map stand

theorem standing?_eq_file_iff {tree : Node} {place : Location} {contents : ByteArray} :
    tree.standing? place = some (.file contents) ↔ tree.get? place = some (.file contents) := by
  rw [standing?, Option.map_eq_some_iff]
  constructor
  · rintro ⟨node, found, stands⟩
    cases node <;> cases stands
    exact found
  · intro found
    exact ⟨_, found, rfl⟩

theorem standing?_eq_directory_iff {tree : Node} {place : Location} :
    tree.standing? place = some .directory ↔
      ∃ entries, tree.get? place = some (.directory entries) := by
  rw [standing?, Option.map_eq_some_iff]
  constructor
  · rintro ⟨node, found, stands⟩
    cases node with
    | file contents => cases stands
    | directory entries => exact ⟨entries, found⟩
  · rintro ⟨entries, found⟩
    exact ⟨_, found, rfl⟩

theorem standing?_cons (entries : List (String × Node)) (name : String) (rest : Location) :
    (Node.directory entries).standing? (name :: rest) =
      (child? name entries).bind fun child => child.standing? rest := by
  rw [standing?, get?_directory_cons, Option.map_bind]
  rfl

theorem standing?_append (tree : Node) (front back : Location) :
    tree.standing? (front ++ back) = (tree.get? front).bind fun node => node.standing? back := by
  rw [standing?, get?_append, Option.map_bind]
  rfl

theorem standing?_below {tree : Node} {place : Location}
    (noDirectory : tree.standing? place ≠ some .directory) (name : String) (rest : Location) :
    tree.standing? (place ++ name :: rest) = none := by
  rw [standing?_append]
  cases found : tree.get? place with
  | none => rfl
  | some node =>
      cases node with
      | file contents => rfl
      | directory entries =>
          exact absurd (standing?_eq_directory_iff.mpr ⟨entries, found⟩) noDirectory

/-! ## Changed trees -/

section Put

variable (node : Node)

theorem put_directory_of_some {entries : List (String × Node)} {name : String} {child : Node}
    (found : child? name entries = some child) (rest : Location) :
    node.put (.directory entries) (name :: rest) =
      .directory (putEntry name (node.put child rest) entries) := by
  rw [put, found]

theorem put_directory_of_none {entries : List (String × Node)} {name : String}
    (found : child? name entries = none) :
    node.put (.directory entries) [name] = .directory (putEntry name node entries) := by
  rw [put, found]
  rfl

/-- A change at a location shows only there and below. -/
theorem standing?_put_other {tree : Node} {place other : Location} (apart : ¬place <+: other) :
    (node.put tree place).standing? other = tree.standing? other := by
  induction place generalizing tree other with
  | nil => exact absurd (List.nil_prefix) apart
  | cons name rest ih =>
      cases tree with
      | file contents => rfl
      | directory entries =>
          cases other with
          | nil =>
              rw [put]
              split
              · rfl
              · split <;> rfl
          | cons first more =>
              rw [List.cons_prefix_cons, not_and] at apart
              cases found : child? name entries with
              | none =>
                  cases rest with
                  | nil =>
                      have others : first ≠ name := fun same => apart same.symm List.nil_prefix
                      rw [put_directory_of_none node found, standing?_cons, standing?_cons,
                        child?_putEntry_other others]
                  | cons next rest => rw [put, found]; rfl
              | some child =>
                  rw [put_directory_of_some node found, standing?_cons, standing?_cons]
                  by_cases same : first = name
                  · subst same
                    rw [child?_putEntry_self, found]
                    exact ih (apart rfl)
                  · rw [child?_putEntry_other same]

theorem get?_put_self {tree : Node} {parent : Location} {entries : List (String × Node)}
    (stands : tree.get? parent = some (.directory entries)) (name : String) (rest : Location) :
    (node.put tree (parent ++ [name])).get? (parent ++ name :: rest) = node.get? rest := by
  induction parent generalizing tree with
  | nil =>
      rw [get?_nil] at stands
      cases stands
      rw [List.nil_append, List.nil_append]
      cases found : child? name entries with
      | none =>
          rw [put_directory_of_none node found, get?_directory_cons, child?_putEntry_self,
            Option.bind_some]
      | some child =>
          rw [put_directory_of_some node found, get?_directory_cons, child?_putEntry_self,
            Option.bind_some]
          cases child <;> rfl
  | cons first parent ih =>
      cases tree with
      | file contents => cases stands
      | directory others =>
          rw [get?_directory_cons] at stands
          obtain ⟨child, found, below⟩ := Option.bind_eq_some_iff.mp stands
          rw [List.cons_append, List.cons_append, put_directory_of_some node found,
            get?_directory_cons, child?_putEntry_self, Option.bind_some]
          exact ih below

end Put

/-! ## Well-formed trees -/

/-- The names of the entries of a directory are plain, and no two are the same. -/
structure WellFormed (tree : Node) : Prop where
  distinct : ∀ place entries, tree.get? place = some (.directory entries) →
    (entries.map (·.1)).Nodup
  named : ∀ place entries, tree.get? place = some (.directory entries) →
    ∀ entry ∈ entries, IsName entry.1 ∧ entry.1 ≠ ".."

theorem WellFormed.ofFile (contents : ByteArray) : (Node.file contents).WellFormed := by
  constructor
  · intro place entries stands
    cases place <;> cases stands
  · intro place entries stands
    cases place <;> cases stands

theorem WellFormed.ofDirectory {entries : List (String × Node)}
    (distinct : (entries.map (·.1)).Nodup)
    (named : ∀ entry ∈ entries, IsName entry.1 ∧ entry.1 ≠ "..")
    (formed : ∀ entry ∈ entries, entry.2.WellFormed) : (Node.directory entries).WellFormed := by
  constructor
  · intro place inner stands
    cases place with
    | nil =>
        cases stands
        exact distinct
    | cons name rest =>
        rw [get?_directory_cons] at stands
        obtain ⟨child, found, below⟩ := Option.bind_eq_some_iff.mp stands
        exact (formed _ (mem_of_child? found)).distinct rest inner below
  · intro place inner stands
    cases place with
    | nil =>
        cases stands
        exact named
    | cons name rest =>
        rw [get?_directory_cons] at stands
        obtain ⟨child, found, below⟩ := Option.bind_eq_some_iff.mp stands
        exact (formed _ (mem_of_child? found)).named rest inner below

theorem WellFormed.of_entry {entries : List (String × Node)}
    (formed : (Node.directory entries).WellFormed) {entry : String × Node}
    (member : entry ∈ entries) : entry.2.WellFormed := by
  have found := child?_of_mem (formed.distinct [] entries rfl) member
  have below (place : Location) :
      (Node.directory entries).get? (entry.1 :: place) = entry.2.get? place := by
    rw [get?_directory_cons, found, Option.bind_some]
  exact ⟨fun place inner stands => formed.distinct _ inner ((below place).trans stands),
    fun place inner stands => formed.named _ inner ((below place).trans stands)⟩

theorem WellFormed.isName {tree : Node} (formed : tree.WellFormed) {place : Location}
    (stands : (tree.get? place).isSome) : ∀ name ∈ place, IsName name := by
  induction place generalizing tree with
  | nil => simp
  | cons name rest ih =>
      cases tree with
      | file contents => cases stands
      | directory entries =>
          rw [get?_directory_cons] at stands
          cases found : child? name entries with
          | none =>
              rw [found] at stands
              cases stands
          | some child =>
              rw [found] at stands
              have member := mem_of_child? found
              exact List.forall_mem_cons.mpr ⟨(formed.named [] entries rfl _ member).1,
                ih (formed.of_entry member) stands⟩

/-! ## Listed in another order -/

/-- Trees that differ only in the order in which their directories list entries. -/
inductive Relisted : Node → Node → Prop where
  | file (contents : ByteArray) : Relisted (.file contents) (.file contents)
  | directory {left right : List (String × Node)}
      (names : (left.map (·.1)).Perm (right.map (·.1)))
      (below : ∀ name inLeft inRight, child? name left = some inLeft →
        child? name right = some inRight → Relisted inLeft inRight) :
      Relisted (.directory left) (.directory right)

theorem Relisted.refl (tree : Node) : Relisted tree tree := by
  induction tree using Node.induct with
  | ofFile contents => exact .file contents
  | ofDirectory entries ih =>
      refine .directory (List.Perm.refl _) fun name inLeft inRight found foundThere => ?_
      rw [found] at foundThere
      cases foundThere
      exact ih _ (mem_of_child? found)

theorem Relisted.of_perm {left right : List (String × Node)}
    (distinct : (left.map (·.1)).Nodup) (entries : left.Perm right) :
    Relisted (.directory left) (.directory right) := by
  have names := entries.map (·.1)
  refine .directory names fun name inLeft inRight found foundThere => ?_
  have member := entries.mem_iff.mp (mem_of_child? found)
  rw [child?_of_mem (names.nodup_iff.mp distinct) member] at foundThere
  cases foundThere
  exact .refl _

/-- The children of a name in both lists, or in neither. -/
theorem child?_cases_of_perm {left right : List (String × Node)}
    (names : (left.map (·.1)).Perm (right.map (·.1))) (name : String) :
    (child? name left = none ∧ child? name right = none) ∨
      ∃ inLeft inRight, child? name left = some inLeft ∧ child? name right = some inRight := by
  have alike : child? name left = none ↔ child? name right = none := by
    rw [child?_eq_none_iff, child?_eq_none_iff, names.mem_iff]
  cases inLeft : child? name left with
  | none => exact .inl ⟨rfl, alike.mp inLeft⟩
  | some node =>
      cases inRight : child? name right with
      | none =>
          rw [inRight, inLeft] at alike
          cases alike.mpr rfl
      | some other => exact .inr ⟨node, other, rfl, rfl⟩

/-- What stands at the same locations of trees listed in different orders: the same file, or
directories with the same names. -/
theorem Relisted.get? {left right : Node} (relisted : Relisted left right) (place : Location) :
    (left.get? place = none ∧ right.get? place = none) ∨
      ∃ inLeft inRight, left.get? place = some inLeft ∧ right.get? place = some inRight ∧
        Relisted inLeft inRight := by
  induction relisted generalizing place with
  | file contents =>
      cases place with
      | nil => exact .inr ⟨_, _, rfl, rfl, .file contents⟩
      | cons name rest => exact .inl ⟨rfl, rfl⟩
  | @directory left right names below ih =>
      cases place with
      | nil => exact .inr ⟨_, _, rfl, rfl, .directory names below⟩
      | cons name rest =>
          rw [get?_directory_cons, get?_directory_cons]
          rcases child?_cases_of_perm names name with ⟨inLeft, inRight⟩ | ⟨_, _, inLeft, inRight⟩
          · rw [inLeft, inRight]
            exact .inl ⟨rfl, rfl⟩
          · rw [inLeft, inRight]
            exact ih name _ _ inLeft inRight rest

theorem Relisted.get?_eq_file_iff {left right : Node} (relisted : Relisted left right)
    {place : Location} {contents : ByteArray} :
    left.get? place = some (.file contents) ↔ right.get? place = some (.file contents) := by
  rcases relisted.get? place with ⟨inLeft, inRight⟩ | ⟨_, _, inLeft, inRight, same⟩
  · rw [inLeft, inRight]
  · rw [inLeft, inRight]
    cases same <;> simp

theorem Relisted.wellFormed {left right : Node} (relisted : Relisted left right)
    (formed : left.WellFormed) : right.WellFormed := by
  have names (place : Location) (entries : List (String × Node))
      (stands : right.get? place = some (.directory entries)) :
      ∃ others, left.get? place = some (.directory others) ∧
        (others.map (·.1)).Perm (entries.map (·.1)) := by
    rcases relisted.get? place with ⟨-, inRight⟩ | ⟨_, _, inLeft, inRight, same⟩
    · rw [inRight] at stands
      cases stands
    · rw [inRight] at stands
      cases same with
      | file contents => cases stands
      | directory names below =>
          cases stands
          exact ⟨_, inLeft, names⟩
  constructor
  · intro place entries stands
    obtain ⟨others, inLeft, same⟩ := names place entries stands
    exact same.nodup_iff.mp (formed.distinct place others inLeft)
  · intro place entries stands entry member
    obtain ⟨others, inLeft, same⟩ := names place entries stands
    obtain ⟨other, listed, name⟩ :=
      List.mem_map.mp (same.mem_iff.mpr (List.mem_map_of_mem member))
    rw [← name]
    exact formed.named place others inLeft other listed

end Node

end Wiring.Workspace
