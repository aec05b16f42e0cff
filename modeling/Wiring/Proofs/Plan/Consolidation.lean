import Mathlib.Data.List.Nodup
import Wiring.Plan.Consolidation

/-!
# Modules of a compilation

Consolidation leaves one descriptor for each identity, in the order in which the identities were
first seen: the first one that the user declared, or else the first one.  See
`consolidate_settles`.
-/

set_option autoImplicit false

namespace Wiring.Plan

/-- Taking in a declaration adds its identity to the end unless it is there. -/
theorem identities_takeIn (module : ModuleDescriptor) (modules : List ModuleDescriptor) :
    (takeIn module modules).map ModuleDescriptor.identity =
      if module.identity ∈ modules.map ModuleDescriptor.identity then
        modules.map ModuleDescriptor.identity
      else modules.map ModuleDescriptor.identity ++ [module.identity] := by
  induction modules with
  | nil => simp [takeIn]
  | cons first rest ih =>
      rw [takeIn]
      by_cases same : first.identity = module.identity
      · have kept :
            (if first.autoGenerated && !module.autoGenerated then module else first).identity =
              first.identity := by
          split
          · exact same.symm
          · rfl
        have known : module.identity ∈ (first :: rest).map ModuleDescriptor.identity := by
          rw [List.map_cons, same]
          exact List.mem_cons_self ..
        rw [if_pos (by simpa using same), if_pos known, List.map_cons, kept, List.map_cons]
      · have apart : module.identity ≠ first.identity := Ne.symm same
        simp only [beq_iff_eq, same, if_false, List.map_cons, ih, List.mem_cons, apart, false_or]
        split <;> rfl

theorem nodup_takeIn {modules : List ModuleDescriptor}
    (distinct : (modules.map ModuleDescriptor.identity).Nodup) (module : ModuleDescriptor) :
    ((takeIn module modules).map ModuleDescriptor.identity).Nodup := by
  rw [identities_takeIn]
  split
  · exact distinct
  · rename_i fresh
    exact List.nodup_append_comm.mp (List.nodup_cons.mpr ⟨fresh, distinct⟩)

/-! ## Which declaration a module is -/

/-- A module is the first declaration of its identity that the user made, or, where all of them
were made up, the first one. -/
def Chosen (declared : List ModuleDescriptor) (module : ModuleDescriptor) : Prop :=
  declared.find? (fun other => other.identity == module.identity && !other.autoGenerated) =
      some module ∨
    (∀ other ∈ declared, other.identity = module.identity → other.autoGenerated = true) ∧
      declared.find? (fun other => other.identity == module.identity) = some module

/-- Modules are those of some declarations: each identity once, in the order in which the
identities were first declared. -/
structure Settles (declared modules : List ModuleDescriptor) : Prop where
  once : (modules.map ModuleDescriptor.identity).Nodup
  identities : ∀ identity,
    identity ∈ modules.map ModuleDescriptor.identity ↔
      identity ∈ declared.map ModuleDescriptor.identity
  ordered : (modules.map ModuleDescriptor.identity).Pairwise fun earlier later =>
    (declared.map ModuleDescriptor.identity).idxOf earlier <
      (declared.map ModuleDescriptor.identity).idxOf later
  chosen : ∀ module ∈ modules, Chosen declared module

/-- A declaration of another identity does not change what was chosen. -/
theorem Chosen.snoc_other {declared : List ModuleDescriptor} {module last : ModuleDescriptor}
    (chosen : Chosen declared module) (apart : last.identity ≠ module.identity) :
    Chosen (declared ++ [last]) module := by
  rcases chosen with found | ⟨madeUp, found⟩
  · left
    rw [List.find?_append, found, Option.some_or]
  · right
    refine ⟨?_, by rw [List.find?_append, found, Option.some_or]⟩
    intro other member same
    rcases List.mem_append.mp member with member | member
    · exact madeUp other member same
    · rw [List.mem_singleton.mp member] at same
      exact absurd same apart

/-- A later declaration takes the place of the chosen one only if the user made it and not the
chosen one. -/
theorem Chosen.snoc_kept {declared : List ModuleDescriptor} {module last : ModuleDescriptor}
    (chosen : Chosen declared module)
    (stays : module.autoGenerated = false ∨ last.autoGenerated = true) :
    Chosen (declared ++ [last]) module := by
  rcases chosen with found | ⟨madeUp, found⟩
  · left
    rw [List.find?_append, found, Option.some_or]
  · have generated : module.autoGenerated = true :=
      madeUp module (List.mem_of_find?_eq_some found) rfl
    have lastGenerated : last.autoGenerated = true := by
      simpa [generated] using stays
    right
    refine ⟨?_, by rw [List.find?_append, found, Option.some_or]⟩
    intro other member same
    rcases List.mem_append.mp member with member | member
    · exact madeUp other member same
    · rw [List.mem_singleton.mp member, lastGenerated]

theorem Chosen.snoc_replaced {declared : List ModuleDescriptor} {module last : ModuleDescriptor}
    (chosen : Chosen declared module) (same : module.identity = last.identity)
    (generated : module.autoGenerated = true) (byUser : last.autoGenerated = false) :
    Chosen (declared ++ [last]) last := by
  rcases chosen with found | ⟨madeUp, -⟩
  · have made := List.find?_some found
    simp [generated] at made
  · have noneByUser : declared.find?
        (fun other => other.identity == last.identity && !other.autoGenerated) = none := by
      rw [List.find?_eq_none]
      intro other member matched
      simp only [Bool.and_eq_true, beq_iff_eq, Bool.not_eq_true'] at matched
      have madeUpOther := madeUp other member (matched.1.trans same.symm)
      rw [matched.2] at madeUpOther
      contradiction
    left
    rw [List.find?_append, noneByUser, Option.none_or]
    simp [byUser]

theorem Chosen.snoc_fresh {declared : List ModuleDescriptor} {last : ModuleDescriptor}
    (fresh : last.identity ∉ declared.map ModuleDescriptor.identity) :
    Chosen (declared ++ [last]) last := by
  have apart : ∀ other ∈ declared, other.identity ≠ last.identity := by
    intro other member same
    exact fresh (same ▸ List.mem_map_of_mem member)
  cases generated : last.autoGenerated with
  | false =>
      left
      have missing : declared.find?
          (fun other => other.identity == last.identity && !other.autoGenerated) = none := by
        rw [List.find?_eq_none]
        intro other member
        simp [apart other member]
      rw [List.find?_append, missing, Option.none_or]
      simp [generated]
  | true =>
      right
      have missing : declared.find? (fun other => other.identity == last.identity) = none := by
        rw [List.find?_eq_none]
        intro other member
        simp [apart other member]
      refine ⟨?_, by rw [List.find?_append, missing, Option.none_or]; simp⟩
      intro other member same
      rcases List.mem_append.mp member with member | member
      · exact absurd same (apart other member)
      · rw [List.mem_singleton.mp member, generated]

/-- Where a module comes from once a declaration has been taken in: it was there, or it is the
declaration, which is new or takes the place of a made-up one. -/
theorem mem_takeIn {modules : List ModuleDescriptor}
    (once : (modules.map ModuleDescriptor.identity).Nodup) {last module : ModuleDescriptor}
    (member : module ∈ takeIn last modules) :
    module ∈ modules ∧
        (last.identity ≠ module.identity ∨
          module.autoGenerated = false ∨ last.autoGenerated = true) ∨
      module = last ∧
        (last.identity ∉ modules.map ModuleDescriptor.identity ∨
          last.autoGenerated = false ∧
            ∃ replaced ∈ modules, replaced.identity = last.identity ∧
              replaced.autoGenerated = true) := by
  induction modules with
  | nil =>
      right
      rw [takeIn, List.mem_singleton] at member
      exact ⟨member, .inl List.not_mem_nil⟩
  | cons first rest ih =>
      rw [List.map_cons, List.nodup_cons] at once
      rw [takeIn] at member
      by_cases same : first.identity = last.identity
      · rw [if_pos (by simpa using same)] at member
        rcases List.mem_cons.mp member with taken | member
        · cases replaces : first.autoGenerated && !last.autoGenerated with
          | true =>
              rw [replaces, if_pos rfl] at taken
              simp only [Bool.and_eq_true, Bool.not_eq_true'] at replaces
              right
              exact ⟨taken, .inr ⟨replaces.2, first, List.mem_cons_self .., same, replaces.1⟩⟩
          | false =>
              rw [replaces, if_neg Bool.false_ne_true] at taken
              left
              refine ⟨taken ▸ List.mem_cons_self .., .inr ?_⟩
              rw [taken]
              simpa only [Bool.not_eq_false'] using Bool.and_eq_false_iff.mp replaces
        · -- What follows the module of this identity is of other ones.
          left
          refine ⟨List.mem_cons_of_mem _ member, .inl ?_⟩
          intro sameLast
          apply once.1
          rw [same, sameLast]
          exact List.mem_map_of_mem member
      · rw [if_neg (by simpa using same)] at member
        rcases List.mem_cons.mp member with rfl | member
        · left
          exact ⟨List.mem_cons_self .., .inl (Ne.symm same)⟩
        · rcases ih once.2 member with ⟨listed, kept⟩ | ⟨taken, how⟩
          · left
            exact ⟨List.mem_cons_of_mem _ listed, kept⟩
          · right
            refine ⟨taken, ?_⟩
            rcases how with fresh | ⟨byUser, replaced, listed, alike, generated⟩
            · left
              simpa [Ne.symm same] using fresh
            · right
              exact ⟨byUser, replaced, List.mem_cons_of_mem _ listed, alike, generated⟩

variable {declared modules : List ModuleDescriptor}

theorem Settles.chosen_takeIn (settles : Settles declared modules) (last : ModuleDescriptor) :
    ∀ module ∈ takeIn last modules, Chosen (declared ++ [last]) module := by
  intro module member
  rcases mem_takeIn settles.once member with ⟨listed, apart | stays⟩ | ⟨rfl, fresh | replaces⟩
  · exact (settles.chosen module listed).snoc_other apart
  · exact (settles.chosen module listed).snoc_kept stays
  · rw [settles.identities] at fresh
    exact .snoc_fresh fresh
  · obtain ⟨byUser, replaced, listed, same, generated⟩ := replaces
    exact (settles.chosen replaced listed).snoc_replaced same generated byUser

theorem Settles.ordered_takeIn (settles : Settles declared modules) (last : ModuleDescriptor) :
    ((takeIn last modules).map ModuleDescriptor.identity).Pairwise fun earlier later =>
      ((declared ++ [last]).map ModuleDescriptor.identity).idxOf earlier <
        ((declared ++ [last]).map ModuleDescriptor.identity).idxOf later := by
  -- A declaration at the end moves none of the identities that were declared before it.
  have place : ∀ identity ∈ modules.map ModuleDescriptor.identity,
      ((declared ++ [last]).map ModuleDescriptor.identity).idxOf identity =
        (declared.map ModuleDescriptor.identity).idxOf identity := by
    intro identity member
    rw [List.map_append, List.idxOf_append_of_mem ((settles.identities identity).mp member)]
  have before := settles.ordered.imp_of_mem fun {earlier later} earlierMember laterMember less => by
    rwa [← place earlier earlierMember, ← place later laterMember] at less
  rw [identities_takeIn]
  split
  · exact before
  · rename_i fresh
    rw [List.pairwise_append]
    refine ⟨before, List.pairwise_singleton _ _, ?_⟩
    intro earlier member later isLast
    rw [List.mem_singleton.mp isLast, place earlier member]
    have known := (settles.identities earlier).mp member
    have absent : last.identity ∉ declared.map ModuleDescriptor.identity :=
      mt (settles.identities last.identity).mpr fresh
    calc (declared.map ModuleDescriptor.identity).idxOf earlier
        < (declared.map ModuleDescriptor.identity).length := List.idxOf_lt_length_of_mem known
      _ ≤ ((declared ++ [last]).map ModuleDescriptor.identity).idxOf last.identity := by
          rw [List.map_append, List.idxOf_append_of_notMem absent]
          exact Nat.le_add_right _ _

theorem Settles.takeIn (settles : Settles declared modules) (last : ModuleDescriptor) :
    Settles (declared ++ [last]) (takeIn last modules) where
  once := nodup_takeIn settles.once last
  identities := by
    intro identity
    rw [identities_takeIn, List.map_append, List.mem_append, ← settles.identities identity]
    split
    · rename_i known
      constructor
      · exact .inl
      · rintro (member | same)
        · exact member
        · rwa [List.mem_singleton.mp same]
    · rw [List.mem_append]
      rfl
  ordered := settles.ordered_takeIn last
  chosen := settles.chosen_takeIn last

theorem settles_nil : Settles [] [] where
  once := List.nodup_nil
  identities := fun _ => Iff.rfl
  ordered := List.Pairwise.nil
  chosen := by simp

theorem Settles.foldl (settles : Settles declared modules) (later : List ModuleDescriptor) :
    Settles (declared ++ later)
      (later.foldl (fun modules module => Plan.takeIn module modules) modules) := by
  induction later generalizing declared modules with
  | nil => rwa [List.append_nil]
  | cons module later ih =>
      have next := ih (settles.takeIn module)
      rwa [List.append_assoc] at next

/-! ## Consolidation -/

/-- Whether a declaration counts: the user made it, or its own settings ask for modules to be made
up and its file is their program entry. -/
def Counts (entry : Entry) : Prop :=
  entry.1.autoGenerated = false ∨
    entry.2.autoGenerateModule = true ∧ entry.2.isProgramEntry entry.1.sourceFile = true

instance decidableCounts : DecidablePred Counts :=
  fun _ => inferInstanceAs (Decidable (_ ∨ _ ∧ _))

theorem isKept_iff (entry : Entry) : isKept entry = true ↔ Counts entry := by
  simp [isKept, Counts]

theorem keptModules_eq (entries : List Entry) :
    keptModules entries = (entries.filter fun entry => decide (Counts entry)).map (·.1) := by
  have same : isKept = fun entry => decide (Counts entry) := by
    funext entry
    rw [Bool.eq_iff_iff, isKept_iff, decide_eq_true_iff]
  rw [keptModules, same]

theorem settles_keptModules (entries : List Entry) :
    Settles (keptModules entries) (consolidate entries).modules :=
  settles_nil.foldl (keptModules entries)

theorem nodup_consolidate (entries : List Entry) :
    ((consolidate entries).modules.map ModuleDescriptor.identity).Nodup :=
  (settles_keptModules entries).once

/-- The modules of a compilation are those that its declarations settle, and their settings are
those of the first declaration, whether it counts or not. -/
theorem consolidate_settles (entries : List Entry) :
    Settles ((entries.filter fun entry => decide (Counts entry)).map (·.1))
        (consolidate entries).modules ∧
      (consolidate entries).settings = (entries.map (·.2)).headD .default := by
  constructor
  · rw [← keptModules_eq]
    exact settles_keptModules entries
  · cases entries <;> rfl

end Wiring.Plan
