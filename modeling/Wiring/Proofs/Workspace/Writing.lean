import Wiring.Proofs.Workspace.Places
import Wiring.Workspace.Output

/-!
# Writing into a directory

One written file changes what stands at one location, and a directory that is made changes no file.
Files of different names that are written into a directory are all there, and everything else is as
before: see `Opens.standing?_writeAll` and `keeps_writeAll`.
-/

set_option autoImplicit false

namespace Wiring.Workspace

open Wiring.Files

variable {workspace before middle after : Workspace} {place : Location} {name path : String}

/-! ## Targets -/

/-- A last name under which something can be made: it is not that of a directory by its nature. -/
def IsNew (name : String) : Prop :=
  name ≠ "" ∧ name ≠ "." ∧ name ≠ ".."

theorem IsEntryName.isNew (named : IsEntryName name) : IsNew name :=
  ⟨named.1.1, named.1.2.1, named.2⟩

theorem exists_blanks (names : List String) :
    (∃ count, names = List.replicate count "") ∨
      ∃ front last count, last ≠ "" ∧ names = front ++ last :: List.replicate count "" := by
  induction names with
  | nil => exact .inl ⟨0, rfl⟩
  | cons first names ih =>
      rcases ih with ⟨count, rfl⟩ | ⟨front, last, count, nonempty, rfl⟩
      · by_cases blank : first = ""
        · exact .inl ⟨count + 1, by rw [blank, List.replicate_succ]⟩
        · exact .inr ⟨[], first, count, blank, rfl⟩
      · exact .inr ⟨first :: front, last, count, nonempty, rfl⟩

theorem dropWhile_blanks (count : Nat) : (List.replicate count "").dropWhile (· == "") = [] := by
  induction count with
  | zero => rfl
  | succ count ih => exact ih

theorem dropBlanks (front : List String) {last : String} (nonempty : last ≠ "") (count : Nat) :
    ((front ++ last :: List.replicate count "").reverse.dropWhile (· == "")).reverse =
      front ++ [last] := by
  rw [List.reverse_append, List.reverse_cons, List.reverse_replicate, List.append_assoc,
    List.dropWhile_append_of_pos (by simp), List.singleton_append,
    List.dropWhile_cons_of_neg (by simpa using nonempty), List.reverse_cons, List.reverse_reverse]

theorem target_eq_entry_iff {found : Option Node} :
    workspace.target path = .ok (.entry place found) ↔
      ∃ front last count parent entries, IsNew last ∧
        pathNames path = front ++ last :: List.replicate count "" ∧
        workspace.follow (workspace.start path) front = .ok parent ∧
        workspace.root.get? parent = some (.directory entries) ∧
        place = parent ++ [last] ∧ found = child? last entries := by
  rcases exists_blanks (pathNames path) with ⟨count, names⟩ | ⟨front, last, count, nonempty, names⟩
  · have none : ((pathNames path).reverse.dropWhile (· == "")).reverse = [] := by
      rw [names, List.reverse_replicate, dropWhile_blanks, List.reverse_nil]
    constructor
    · intro asked
      simp only [target, none, List.getLast?_nil] at asked
      split at asked <;> cases asked
    · rintro ⟨front, last, others, -, -, proper, parts, -⟩
      have member : last ∈ List.replicate count "" := by
        rw [← names, parts]
        simp
      exact absurd (List.eq_of_mem_replicate member) proper.1
  · have kept := dropBlanks front nonempty count
    rw [← names] at kept
    simp only [target, kept, List.getLast?_concat, List.dropLast_concat]
    constructor
    · intro asked
      obtain ⟨parent, leads, asked⟩ := Outcome.bind_eq_ok_iff.mp asked
      split at asked
      · obtain ⟨_, -, asked⟩ := Outcome.bind_eq_ok_iff.mp asked
        cases asked
      · rename_i proper
        simp only [Bool.or_eq_true, beq_iff_eq, not_or] at proper
        split at asked
        · rename_i entries stands
          rw [Outcome.pure_eq_ok_iff] at asked
          cases asked
          exact ⟨front, last, count, parent, entries, ⟨nonempty, proper⟩, names, leads, stands, rfl,
            rfl⟩
        · cases asked
        · cases asked
    · rintro ⟨others, other, more, parent, entries, proper, parts, leads, stands, rfl, rfl⟩
      have same := dropBlanks others proper.1 more
      rw [← parts, kept] at same
      obtain ⟨rfl, lasts⟩ := List.append_inj' same rfl
      obtain rfl := List.singleton_inj.mp lasts
      refine Outcome.bind_eq_ok_iff.mpr ⟨parent, leads, ?_⟩
      rw [if_neg (by simp [proper.2.1, proper.2.2]), stands]
      rfl

/-! ## One change -/

/-- Something is put at a location, and everything else stands as before. -/
structure Puts (before after : Workspace) (place : Location) (stand : Node.Stand) : Prop where
  home : after.home = before.home
  there : after.root.standing? place = some stand
  others : ∀ other, other ≠ place →
    after.root.standing? other = before.root.standing? other

theorem standing?_entry {entries : List (String × Node)}
    (stands : workspace.root.get? place = some (.directory entries)) (name : String) :
    workspace.root.standing? (place ++ [name]) = (child? name entries).map Node.stand := by
  rw [Node.standing?_append, stands, Option.bind_some, Node.standing?_cons]
  cases child? name entries with
  | none => rfl
  | some child =>
      rw [Option.bind_some, Node.standing?, Node.get?_nil]

theorem puts_putAt (node : Node) {entries : List (String × Node)}
    (stands : workspace.root.get? place = some (.directory entries))
    (free : workspace.root.standing? (place ++ [name]) ≠ some .directory)
    (bare : ∀ name rest, node.get? (name :: rest) = none) :
    Puts workspace (workspace.putAt (place ++ [name]) node) (place ++ [name]) node.stand := by
  constructor
  · rfl
  · have put := Node.get?_put_self node stands name []
    rw [Node.get?_nil] at put
    rw [Node.standing?, putAt, put]
    rfl
  · intro other apart
    by_cases below : place ++ [name] <+: other
    · obtain ⟨rest, rfl⟩ := below
      cases rest with
      | nil => exact absurd (List.append_nil _) apart
      | cons next rest =>
          have put := Node.get?_put_self node stands name (next :: rest)
          rw [bare] at put
          rw [Node.standing?_below free, Node.standing?, putAt, List.append_assoc,
            List.singleton_append, put]
          rfl
    · exact Node.standing?_put_other node below

theorem Puts.keeps {stand : Node.Stand} (puts : Puts before after place stand)
    (kind : before.root.standing? place = some .directory → stand = .directory) :
    Keeps before after where
  home := puts.home
  directories := by
    intro other stands
    by_cases same : other = place
    · subst same
      rw [puts.there, kind stands]
    · rw [puts.others other same, stands]
  others := by
    intro other stands
    by_cases same : other = place
    · subst same
      rw [puts.there]
      rfl
    · rwa [puts.others other same]

/-! ## Files -/

theorem write_eq_ok_iff {text : String} :
    workspace.write path text = .ok after ↔
      ∃ place found, workspace.target path = .ok (.entry place found) ∧
        found.map Node.stand ≠ some .directory ∧
        after = workspace.putAt place (.file text.toUTF8) := by
  rw [write, update, Outcome.bind_eq_ok_iff]
  constructor
  · rintro ⟨asked, found, given⟩
    split at given
    · rename_i place
      exact ⟨place, none, found, by simp, (Outcome.pure_eq_ok_iff.mp given).symm⟩
    · rename_i place contents
      exact ⟨place, _, found, by simp [Node.stand], (Outcome.pure_eq_ok_iff.mp given).symm⟩
    · cases given
    · cases given
  · rintro ⟨place, found, asked, free, rfl⟩
    refine ⟨_, asked, ?_⟩
    rcases found with _ | (contents | entries)
    · rfl
    · rfl
    · exact absurd rfl free

/-- A file that is written is at the location of its path, and changes nothing else. -/
theorem puts_of_write {text : String} (written : workspace.write path text = .ok after)
    (proper : (pathNames path).getLast? ≠ some "") :
    ∃ place, after.locate path = .ok place ∧ Keeps workspace after ∧
      Puts workspace after place (.file text.toUTF8) := by
  obtain ⟨place, found, asked, free, rfl⟩ := write_eq_ok_iff.mp written
  obtain ⟨front, last, count, parent, entries, new, names, leads, stands, rfl, rfl⟩ :=
    target_eq_entry_iff.mp asked
  rw [← standing?_entry stands last] at free
  have puts := puts_putAt (.file text.toUTF8) stands free fun _ _ => rfl
  have keeps := puts.keeps fun directory => absurd directory free
  refine ⟨parent ++ [last], ?_, keeps, puts⟩
  have blanks : count = 0 := by
    cases count with
    | zero => rfl
    | succ count =>
        rw [List.replicate_succ', ← List.cons_append, ← List.append_assoc] at names
        rw [names, List.getLast?_concat] at proper
        exact absurd rfl proper
  subst blanks
  have nonempty : path ≠ "" := by
    rintro rfl
    have alone : [""] = front ++ [last] := names
    have lasts := congrArg List.getLast? alone
    rw [List.getLast?_concat] at lasts
    exact new.1 (Option.some_inj.mp lasts).symm
  have inside := keeps.directories parent (Node.standing?_eq_directory_iff.mpr ⟨entries, stands⟩)
  rw [locate, if_neg (by simpa using nonempty), names]
  refine follow_concat_eq_ok_iff.mpr ⟨parent, keeps.start path ▸ keeps.follow leads, ?_⟩
  rw [descend_of_directory inside, if_neg (not_or.mpr ⟨new.1, new.2.1⟩), if_neg new.2.2,
    puts.there]
  rfl

section Join

variable {base : String}

theorem target_join_iff (named : IsEntryName name) {found : Option Node} :
    workspace.target (join base name) = .ok (.entry place found) ↔
      ∃ parent entries, workspace.Opens base parent ∧
        workspace.root.get? parent = some (.directory entries) ∧ place = parent ++ [name] ∧
        found = child? name entries := by
  obtain ⟨front, joined, opens_iff⟩ := opens_iff_of_join base workspace named.1
  rw [target_eq_entry_iff]
  constructor
  · rintro ⟨others, last, count, parent, entries, new, names, leads, stands, rfl, rfl⟩
    have kept := dropBlanks others new.1 count
    have same := dropBlanks front named.1.1 0
    have whole : front ++ name :: List.replicate 0 "" = others ++ last :: List.replicate count "" :=
      joined.symm.trans names
    rw [whole, kept] at same
    obtain ⟨rfl, lasts⟩ := List.append_inj' same rfl
    obtain rfl := List.singleton_inj.mp lasts
    have directory := Node.standing?_eq_directory_iff.mpr ⟨entries, stands⟩
    exact ⟨parent, entries, (opens_iff parent).mpr ⟨leads, directory⟩, stands, rfl, rfl⟩
  · rintro ⟨parent, entries, opens, stands, rfl, rfl⟩
    exact ⟨front, name, 0, parent, entries, named.isNew, joined, ((opens_iff parent).mp opens).1,
      stands, rfl, rfl⟩

/-- A file of the name can be put into the directory. -/
def Accepts (workspace : Workspace) (directory name : String) : Prop :=
  ∃ place, workspace.Opens directory place ∧
    workspace.root.standing? (place ++ [name]) ≠ some .directory

theorem write_join_iff (named : IsEntryName name) {text : String} :
    workspace.write (join base name) text = .ok after ↔
      ∃ place, workspace.Opens base place ∧
        workspace.root.standing? (place ++ [name]) ≠ some .directory ∧
        after = workspace.putAt (place ++ [name]) (.file text.toUTF8) := by
  rw [write_eq_ok_iff]
  constructor
  · rintro ⟨_, _, asked, free, rfl⟩
    obtain ⟨place, entries, opens, stands, rfl, rfl⟩ := (target_join_iff named).mp asked
    rw [← standing?_entry stands name] at free
    exact ⟨place, opens, free, rfl⟩
  · rintro ⟨place, opens, free, rfl⟩
    obtain ⟨entries, stands⟩ := Node.standing?_eq_directory_iff.mp opens.stands
    rw [standing?_entry stands name] at free
    exact ⟨_, _, (target_join_iff named).mpr ⟨place, entries, opens, stands, rfl, rfl⟩, free, rfl⟩

theorem Opens.puts_of_write (opens : workspace.Opens base place) (named : IsEntryName name)
    {text : String} (written : workspace.write (join base name) text = .ok after) :
    Keeps workspace after ∧ Puts workspace after (place ++ [name]) (.file text.toUTF8) := by
  obtain ⟨other, opensOther, free, rfl⟩ := (write_join_iff named).mp written
  obtain rfl := opens.unique opensOther
  obtain ⟨entries, stands⟩ := Node.standing?_eq_directory_iff.mp opens.stands
  have puts := puts_putAt (.file text.toUTF8) stands free fun _ _ => rfl
  exact ⟨puts.keeps fun directory => absurd directory free, puts⟩

end Join

/-! ## Several files -/

section Files

variable {directory : String} {files : List GeneratedFile}

theorem writeAll_of_ok {file : GeneratedFile}
    (written : workspace.write (join directory file.name) file.contents = .ok middle)
    (rest : List GeneratedFile) :
    workspace.writeAll directory (file :: rest) = middle.writeAll directory rest := by
  conv_lhs => unfold writeAll
  rw [written]

theorem writeAll_of_error {file : GeneratedFile} {fault : FileFault}
    (refused : workspace.write (join directory file.name) file.contents = .error fault)
    (rest : List GeneratedFile) :
    workspace.writeAll directory (file :: rest) = (workspace, some fault) := by
  conv_lhs => unfold writeAll
  rw [refused]

theorem writeAll_eq_none_iff (named : ∀ file ∈ files, IsEntryName file.name) :
    (workspace.writeAll directory files).2 = none ↔
      ∀ file ∈ files, workspace.Accepts directory file.name := by
  induction files generalizing workspace with
  | nil => exact ⟨fun _ _ member => absurd member List.not_mem_nil, fun _ => rfl⟩
  | cons file rest ih =>
      obtain ⟨first, later⟩ := List.forall_mem_cons.mp named
      rw [List.forall_mem_cons]
      cases written : workspace.write (join directory file.name) file.contents with
      | error fault =>
          rw [writeAll_of_error written]
          constructor
          · intro success
            cases success
          · rintro ⟨⟨place, opens, free⟩, -⟩
            have success : workspace.write (join directory file.name) file.contents = .ok _ :=
              (write_join_iff first).mpr ⟨place, opens, free, rfl⟩
            rw [written] at success
            cases success
      | ok middle =>
          rw [writeAll_of_ok written]
          obtain ⟨place, opens, free, -⟩ := (write_join_iff first).mp written
          obtain ⟨keeps, puts⟩ := opens.puts_of_write first written
          have same (other : GeneratedFile) :
              middle.Accepts directory other.name ↔ workspace.Accepts directory other.name := by
            have kinds : middle.root.standing? (place ++ [other.name]) ≠ some .directory ↔
                workspace.root.standing? (place ++ [other.name]) ≠ some .directory := by
              by_cases alike : other.name = file.name
              · rw [alike, puts.there]
                simp [free]
              · rw [puts.others _ (by simpa using alike)]
            constructor
            · rintro ⟨found, opensThere, freeThere⟩
              obtain rfl := opensThere.unique (keeps.opens opens)
              exact ⟨found, opens, kinds.mp freeThere⟩
            · rintro ⟨found, opensThere, freeThere⟩
              obtain rfl := opensThere.unique opens
              exact ⟨found, keeps.opens opens, kinds.mpr freeThere⟩
          rw [ih later]
          simp only [same]
          exact ⟨fun rest => ⟨⟨place, opens, free⟩, rest⟩, fun both => both.2⟩

/-- Each of the files that are written into a directory is there with its contents. -/
theorem Opens.standing?_writeAll (opens : workspace.Opens directory place)
    (named : ∀ file ∈ files, IsEntryName file.name) (distinct : (files.map (·.name)).Nodup)
    (success : workspace.writeAll directory files = (after, none)) :
    (∀ file ∈ files,
      after.root.standing? (place ++ [file.name]) = some (.file file.contents.toUTF8)) ∧
    ∀ other, (∀ file ∈ files, other ≠ place ++ [file.name]) →
      after.root.standing? other = workspace.root.standing? other := by
  induction files generalizing workspace with
  | nil =>
      cases success
      exact ⟨fun file member => absurd member List.not_mem_nil, fun _ _ => rfl⟩
  | cons file rest ih =>
      obtain ⟨first, later⟩ := List.forall_mem_cons.mp named
      rw [List.map_cons, List.nodup_cons] at distinct
      cases written : workspace.write (join directory file.name) file.contents with
      | error fault =>
          rw [writeAll_of_error written] at success
          cases success
      | ok middle =>
          rw [writeAll_of_ok written] at success
          obtain ⟨keeps, puts⟩ := opens.puts_of_write first written
          obtain ⟨there, others⟩ := ih (keeps.opens opens) later distinct.2 success
          constructor
          · refine List.forall_mem_cons.mpr ⟨?_, there⟩
            rw [others, puts.there]
            intro other member same
            have names : file.name = other.name := by simpa using same
            exact distinct.1 (names ▸ List.mem_map_of_mem member)
          · intro other apart
            obtain ⟨apartFirst, apartLater⟩ := List.forall_mem_cons.mp apart
            rw [others other apartLater, puts.others other apartFirst]

/-- However far it gets, writing files changes nothing but what their paths lead to. -/
theorem keeps_writeAll
    (proper : ∀ file ∈ files, (pathNames (join directory file.name)).getLast? ≠ some "") :
    Keeps workspace (workspace.writeAll directory files).1 ∧
      ∀ other, (∀ file ∈ files, (workspace.writeAll directory files).1.locate
          (join directory file.name) ≠ .ok other) →
        (workspace.writeAll directory files).1.root.standing? other =
          workspace.root.standing? other := by
  induction files generalizing workspace with
  | nil => exact ⟨Keeps.refl workspace, fun _ _ => rfl⟩
  | cons file rest ih =>
      obtain ⟨first, later⟩ := List.forall_mem_cons.mp proper
      cases written : workspace.write (join directory file.name) file.contents with
      | error fault =>
          rw [writeAll_of_error written]
          exact ⟨Keeps.refl workspace, fun _ _ => rfl⟩
      | ok middle =>
          rw [writeAll_of_ok written]
          obtain ⟨place, located, keeps, puts⟩ := puts_of_write written first
          obtain ⟨keepsLater, others⟩ := @ih middle later
          refine ⟨keeps.trans keepsLater, fun other apart => ?_⟩
          obtain ⟨apartFirst, apartLater⟩ := List.forall_mem_cons.mp apart
          rw [others other apartLater, puts.others other]
          rintro rfl
          exact apartFirst (keepsLater.locate located)

end Files

/-! ## Directories -/

/-- Directories are added, and everything else is as before. -/
structure Grows (before after : Workspace) : Prop where
  home : after.home = before.home
  stays : ∀ place, (before.root.standing? place).isSome →
    after.root.standing? place = before.root.standing? place
  added : ∀ place, before.root.standing? place = none →
    after.root.standing? place = none ∨ after.root.standing? place = some .directory

theorem Grows.refl (workspace : Workspace) : Grows workspace workspace :=
  ⟨rfl, fun _ _ => rfl, fun _ nothing => .inl nothing⟩

theorem Grows.trans (first : Grows before middle) (second : Grows middle after) :
    Grows before after where
  home := second.home.trans first.home
  stays := by
    intro place there
    have kept := first.stays place there
    rw [second.stays place (kept ▸ there), kept]
  added := by
    intro place nothing
    rcases first.added place nothing with nothing | directory
    · exact second.added place nothing
    · exact .inr (by rw [second.stays place (by rw [directory]; rfl), directory])

theorem Grows.file_iff (grows : Grows before after) {contents : ByteArray} :
    after.root.standing? place = some (.file contents) ↔
      before.root.standing? place = some (.file contents) := by
  constructor
  · intro stands
    cases nothing : before.root.standing? place with
    | none =>
        rcases grows.added place nothing with none | directory
        · rw [none] at stands
          cases stands
        · rw [directory] at stands
          cases stands
    | some stand => rw [← nothing, ← grows.stays place (by rw [nothing]; rfl), stands]
  · intro stands
    rw [grows.stays place (by rw [stands]; rfl), stands]

theorem grows_of_makeDirectory (made : workspace.makeDirectory path = .ok after) :
    Grows workspace after := by
  obtain ⟨asked, found, given⟩ := Outcome.bind_eq_ok_iff.mp made
  split at given
  case h_2 => cases given
  case h_3 => cases given
  case h_1 place =>
    obtain rfl := Outcome.pure_eq_ok_iff.mp given
    obtain ⟨front, last, count, parent, entries, new, names, leads, stands, rfl, free⟩ :=
      target_eq_entry_iff.mp found
    have nothing : workspace.root.standing? (parent ++ [last]) = none := by
      rw [standing?_entry stands last, ← free]
      rfl
    have puts := puts_putAt (.directory []) stands
      (by rw [nothing]; exact nofun) fun _ _ => rfl
    refine ⟨puts.home, fun other there => puts.others other ?_, fun other absent => ?_⟩
    · rintro rfl
      rw [nothing] at there
      cases there
    · by_cases same : other = parent ++ [last]
      · exact .inr (same ▸ puts.there)
      · exact .inl (by rw [puts.others other same, absent])

theorem grows_makeChain (workspace : Workspace) (paths : List String) :
    Grows workspace (workspace.makeChain paths).1 := by
  induction paths generalizing workspace with
  | nil => exact Grows.refl workspace
  | cons path outer ih =>
      rw [makeChain]
      split
      · exact Grows.refl workspace
      · split
        · rename_i made success
          exact grows_of_makeDirectory success
        · have outside := ih workspace
          split
          · rename_i made fault chain
            rwa [chain] at outside
          · rename_i made chain
            rw [chain] at outside
            split
            · rename_i success
              exact outside.trans (grows_of_makeDirectory success)
            · exact outside
        · exact Grows.refl workspace

end Wiring.Workspace
