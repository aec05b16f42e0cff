import Mathlib.Data.List.Nodup
import Wiring.Declaration.Module
import Wiring.Generated.Names
import Wiring.Proofs.Text.Segments
import Wiring.Proofs.Workspace.Places

/-!
# Names of units

Modules whose names and namespaces have no dots have units of different names, and without slashes
these are names of files in one directory.
-/

set_option autoImplicit false

namespace Wiring

open Wiring.Files
open Wiring.Text

namespace TypeName

/-- Neither the name nor a segment of the namespace of a type holds a character. -/
structure Avoids (type : TypeName) (c : Char) : Prop where
  name : c ∉ type.name.toList
  segments : ∀ segment ∈ segments type.space, c ∉ segment.toList

instance decidableAvoids (type : TypeName) (c : Char) : Decidable (type.Avoids c) :=
  decidable_of_iff (c ∉ type.name.toList ∧ ∀ segment ∈ Text.segments type.space,
    c ∉ segment.toList) ⟨fun ⟨name, segments⟩ => ⟨name, segments⟩,
    fun avoids => ⟨avoids.name, avoids.segments⟩⟩

def unitNames (type : TypeName) : List String :=
  [type.facadeFile, type.registrationsFile]

variable {type left right : TypeName}

/-! ## Stems -/

/-- The segments of a namespace; the empty one has none. -/
def spaceParts (type : TypeName) : List String :=
  if type.space = "" then [] else segments type.space

theorem fileStem_eq (type : TypeName) :
    type.fileStem = ".".intercalate (type.spaceParts ++ [type.name]) := by
  rw [fileStem, spaceParts]
  by_cases empty : type.space = ""
  · rw [if_pos (by simp [empty]), if_pos empty, List.nil_append, String.intercalate_singleton]
  · rw [if_neg (by simpa using empty), if_neg empty,
      String.intercalate_append_of_ne_nil (segments_ne_nil _) (List.cons_ne_nil _ _),
      String.intercalate_singleton]

theorem space_eq_of_spaceParts (same : left.spaceParts = right.spaceParts) :
    left.space = right.space := by
  rw [spaceParts, spaceParts] at same
  split at same <;> split at same
  · rename_i first second
    rw [first, second]
  · exact absurd same.symm (segments_ne_nil _)
  · exact absurd same (segments_ne_nil _)
  · rw [← joinSegments_segments left.space, same, joinSegments_segments]

theorem Avoids.parts {c : Char} (avoids : type.Avoids c) :
    ∀ part ∈ type.spaceParts ++ [type.name], c ∉ part.toList := by
  intro part member
  rcases List.mem_append.mp member with inSpace | isName
  · rw [spaceParts] at inSpace
    split at inSpace
    · cases inSpace
    · exact avoids.segments part inSpace
  · rw [List.mem_singleton.mp isName]
    exact avoids.name

theorem splitOn_fileStem (undotted : type.Avoids '.') :
    type.fileStem.toList.splitOn '.' = (type.spaceParts ++ [type.name]).map String.toList := by
  have dot : ".".toList = ['.'] := by decide
  rw [fileStem_eq, String.toList_intercalate, dot]
  refine List.splitOn_intercalate '.' ?_ (by simp)
  intro chars member
  obtain ⟨part, among, rfl⟩ := List.mem_map.mp member
  exact undotted.parts part among

theorem identity_eq_of_fileStem (leftUndotted : left.Avoids '.') (rightUndotted : right.Avoids '.')
    (same : left.fileStem = right.fileStem) : left.identity = right.identity := by
  have parts := congrArg (fun stem => stem.toList.splitOn '.') same
  rw [splitOn_fileStem leftUndotted, splitOn_fileStem rightUndotted,
    (List.map_injective_iff.mpr fun _ _ => String.toList_inj.mp).eq_iff] at parts
  obtain ⟨spaces, names⟩ := List.append_inj' parts rfl
  rw [identity, identity, space_eq_of_spaceParts spaces, List.singleton_inj.mp names]

theorem mem_intercalate {c separator : Char} {parts : List (List Char)}
    (member : c ∈ [separator].intercalate parts) : c = separator ∨ ∃ part ∈ parts, c ∈ part := by
  induction parts with
  | nil => cases member
  | cons first rest ih =>
      cases rest with
      | nil => exact .inr ⟨first, List.mem_cons_self, by simpa using member⟩
      | cons second rest =>
          rw [List.intercalate_cons_cons, List.mem_append, List.mem_append] at member
          rcases member with (inFirst | isSeparator) | later
          · exact .inr ⟨first, List.mem_cons_self, inFirst⟩
          · exact .inl (List.mem_singleton.mp isSeparator)
          · rcases ih later with isSeparator | ⟨part, among, inside⟩
            · exact .inl isSeparator
            · exact .inr ⟨part, List.mem_cons_of_mem _ among, inside⟩

theorem Avoids.fileStem {c : Char} (avoids : type.Avoids c) (noDot : c ≠ '.') :
    c ∉ type.fileStem.toList := by
  have dot : ".".toList = ['.'] := by decide
  rw [fileStem_eq, String.toList_intercalate, dot]
  intro member
  rcases mem_intercalate member with isDot | ⟨chars, listed, inside⟩
  · exact noDot isDot
  · obtain ⟨part, among, rfl⟩ := List.mem_map.mp listed
    exact avoids.parts part among inside

/-! ## Units -/

theorem generatedTail_suffix {name : String} (member : name ∈ type.unitNames) :
    generatedTail.toList <:+ name.toList := by
  simp only [unitNames, List.mem_cons, List.not_mem_nil, or_false] at member
  rcases member with rfl | rfl
  · exact ⟨_, String.toList_append.symm⟩
  · exact ⟨_, String.toList_append.symm⟩

/-- A facade is not named like registrations: the two kinds differ in their last letter. -/
theorem facadeFile_ne_registrationsFile (left right : TypeName) :
    left.facadeFile ≠ right.registrationsFile := by
  intro same
  rw [facadeFile, registrationsFile, String.append_left_inj] at same
  have ends := congrArg (fun text => text.toList.getLast?) same
  have facade : ".module".toList = ".modul".toList ++ ['e'] := by decide
  have registrations : ".registrations".toList = ".registration".toList ++ ['s'] := by decide
  rw [String.toList_append, String.toList_append, facade, registrations, ← List.append_assoc,
    ← List.append_assoc, List.getLast?_concat, List.getLast?_concat] at ends
  exact absurd ends (by decide)

theorem disjoint_unitNames (leftUndotted : left.Avoids '.') (rightUndotted : right.Avoids '.')
    (apart : left.identity ≠ right.identity) : left.unitNames.Disjoint right.unitNames := by
  have stems : left.fileStem ≠ right.fileStem :=
    mt (identity_eq_of_fileStem leftUndotted rightUndotted) apart
  have facades : left.facadeFile ≠ right.facadeFile := by
    rw [facadeFile, facadeFile, Ne, String.append_left_inj, String.append_left_inj]
    exact stems
  have registrations : left.registrationsFile ≠ right.registrationsFile := by
    rw [registrationsFile, registrationsFile, Ne, String.append_left_inj, String.append_left_inj]
    exact stems
  intro name inLeft inRight
  simp only [unitNames, List.mem_cons, List.not_mem_nil, or_false] at inLeft inRight
  rcases inLeft with rfl | rfl
  · rcases inRight with same | same
    · exact facades same
    · exact facadeFile_ne_registrationsFile left right same
  · rcases inRight with same | same
    · exact facadeFile_ne_registrationsFile right left same.symm
    · exact registrations same

theorem nodup_unitNames (type : TypeName) : type.unitNames.Nodup := by
  simp [unitNames, facadeFile_ne_registrationsFile]

theorem nodup_flatMap_unitNames {modules : List ModuleDescriptor}
    (distinct : (modules.map (·.identity)).Nodup)
    (undotted : ∀ module ∈ modules, module.type.Avoids '.') :
    (modules.flatMap fun module => module.type.unitNames).Nodup := by
  rw [List.nodup_flatMap]
  refine ⟨fun module _ => nodup_unitNames module.type, ?_⟩
  refine (List.pairwise_map.mp distinct).imp_of_mem fun {left right} inLeft inRight apart => ?_
  exact disjoint_unitNames (undotted left inLeft) (undotted right inRight) apart

theorem isEntryName_of_mem_unitNames (unslashed : type.Avoids '/') {name : String}
    (member : name ∈ type.unitNames) : Workspace.IsEntryName name := by
  have long := (generatedTail_suffix member).length_le
  have tail : generatedTail.toList.length = 5 := by decide
  have free : '/' ∉ name.toList := by
    have stem := unslashed.fileStem (by decide)
    have suffixes : '/' ∉ ".module".toList ∧ '/' ∉ ".registrations".toList ∧
        '/' ∉ generatedTail.toList := by decide
    simp only [unitNames, List.mem_cons, List.not_mem_nil, or_false] at member
    rcases member with rfl | rfl
    · simp [facadeFile, stem, suffixes]
    · simp [registrationsFile, stem, suffixes]
  have short (other : String) (fewer : other.toList.length < 5) : name ≠ other := by
    rintro rfl
    omega
  exact ⟨⟨short "" (by decide), short "." (by decide), free⟩, short ".." (by decide)⟩

end TypeName

end Wiring
