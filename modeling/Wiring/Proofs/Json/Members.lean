import Mathlib.Data.List.Induction
import Mathlib.Data.List.Nodup
import Mathlib.Data.String.Basic
import Wiring.Json.Decode
import Wiring.Proofs.Outcome

/-!
# Members of objects

The value of a name in an object is the last one that stands under it.  A record is read from an
object if each of its fields can be read from its value: see `fieldsOf_object`.
-/

set_option autoImplicit false

namespace Wiring.Json

theorem find?_of_mem {α : Type} {entries : List (String × α)} {entry : String × α}
    (apart : (entries.map (·.1)).Nodup) (member : entry ∈ entries) :
    entries.find? (·.1 == entry.1) = some entry := by
  cases found : entries.find? (·.1 == entry.1) with
  | none => exact absurd (beq_self_eq_true _) (List.find?_eq_none.mp found entry member)
  | some other =>
      have there : other ∈ entries := List.mem_of_find?_eq_some found
      have same : other.1 = entry.1 := by simpa using List.find?_some found
      rw [List.inj_on_of_nodup_map apart there member same]

/-- The value that counts for a name: the last one. -/
def valueOf? (name : String) (members : List (String × Json)) : Option Json :=
  (members.reverse.find? (·.1 == name)).map (·.2)

section Values

variable {name other : String} {value : Json} {front back members : List (String × Json)}

theorem valueOf?_append :
    valueOf? name (front ++ back) = (valueOf? name back).or (valueOf? name front) := by
  rw [valueOf?, List.reverse_append, List.find?_append, Option.map_or]
  rfl

theorem valueOf?_cons_other (apart : other ≠ name) :
    valueOf? name ((other, value) :: members) = valueOf? name members := by
  have cut : (other, value) :: members = [(other, value)] ++ members := rfl
  rw [cut, valueOf?_append]
  simp [valueOf?, apart]

theorem valueOf?_filter_other (apart : name ≠ other) :
    valueOf? name (members.filter (·.1 != other)) = valueOf? name members := by
  induction members with
  | nil => rfl
  | cons entry rest ih =>
      obtain ⟨this, value⟩ := entry
      by_cases same : this = other
      · subst same
        rw [List.filter_cons_of_neg (by simp), ih, valueOf?_cons_other (Ne.symm apart)]
      · have cut : (this, value) :: rest = [(this, value)] ++ rest := rfl
        rw [List.filter_cons_of_pos (by simpa using same), cut, valueOf?_append,
          ← List.singleton_append, valueOf?_append, ih]

theorem valueOf?_of_mem (apart : (members.map (·.1)).Nodup) (member : (name, value) ∈ members) :
    valueOf? name members = some value := by
  have backwards : (members.reverse.map (·.1)).Nodup := by
    rwa [List.map_reverse, List.nodup_reverse]
  rw [valueOf?, find?_of_mem backwards (List.mem_reverse.mpr member)]
  rfl

end Values

/-! ## Sorted members -/

theorem find?_insertMember_same (name : String) (value : Json) (members : List (String × Json)) :
    (insertMember name value members).find? (·.1 == name) = some (name, value) := by
  induction members with
  | nil => simp [insertMember]
  | cons entry rest ih =>
      obtain ⟨this, old⟩ := entry
      rw [insertMember]
      split
      · simp
      · rename_i apart
        have other : (this == name) = false := by
          rw [BEq.comm]
          simpa using apart
        split
        · simp
        · simpa [other] using ih

theorem find?_insertMember_other {name other : String} (apart : name ≠ other) (value : Json)
    (members : List (String × Json)) :
    (insertMember name value members).find? (·.1 == other) =
      members.find? (·.1 == other) := by
  induction members with
  | nil => simp [insertMember, apart]
  | cons entry rest ih =>
      obtain ⟨this, old⟩ := entry
      rw [insertMember]
      split
      · rename_i same
        obtain rfl : name = this := by simpa using same
        simp [apart]
      · split
        · simp [apart]
        · rw [List.find?_cons, List.find?_cons, ih]

/-- Sorting keeps the value that counts for each name. -/
theorem find?_sortMembers (name : String) (members : List (String × Json)) :
    (sortMembers members).find? (·.1 == name) = members.reverse.find? (·.1 == name) := by
  induction members using List.reverseRecOn with
  | nil => rfl
  | append_singleton members entry ih =>
      have step : sortMembers (members ++ [entry]) =
          insertMember entry.1 entry.2 (sortMembers members) := by
        simp [sortMembers]
      rw [step, List.reverse_append, List.reverse_singleton, List.singleton_append]
      by_cases asked : entry.1 = name
      · subst asked
        rw [find?_insertMember_same, List.find?_cons_of_pos (by simp)]
      · rw [find?_insertMember_other asked, ih, List.find?_cons_of_neg (by simpa using asked)]

theorem mem_of_mem_insertMember {name : String} {value : Json} {entry : String × Json}
    {members : List (String × Json)} (member : entry ∈ insertMember name value members) :
    entry = (name, value) ∨ entry ∈ members := by
  induction members with
  | nil => simpa [insertMember] using member
  | cons first rest ih =>
      obtain ⟨this, old⟩ := first
      unfold insertMember at member
      split at member
      · rcases List.mem_cons.mp member with rfl | later
        · exact .inl rfl
        · exact .inr (List.mem_cons_of_mem _ later)
      · split at member
        · simpa [or_assoc] using member
        · rcases List.mem_cons.mp member with rfl | later
          · exact .inr List.mem_cons_self
          · exact (ih later).imp_right (List.mem_cons_of_mem _)

theorem pairwise_insertMember (name : String) (value : Json) {members : List (String × Json)}
    (sorted : members.Pairwise (·.1 < ·.1)) :
    (insertMember name value members).Pairwise (·.1 < ·.1) := by
  induction members with
  | nil => simp [insertMember]
  | cons first rest ih =>
      obtain ⟨this, old⟩ := first
      obtain ⟨least, tail⟩ := List.pairwise_cons.mp sorted
      unfold insertMember
      split
      · rename_i same
        obtain rfl : name = this := by simpa using same
        exact List.pairwise_cons.mpr ⟨least, tail⟩
      · rename_i apart
        split
        · rename_i less
          refine List.pairwise_cons.mpr ⟨?_, sorted⟩
          intro entry member
          rcases List.mem_cons.mp member with rfl | later
          · exact less
          · exact lt_trans less (least entry later)
        · rename_i notLess
          have greater : this < name := by
            rcases lt_trichotomy this name with less | same | less
            · exact less
            · exact absurd same.symm (by simpa using apart)
            · exact absurd less notLess
          refine List.pairwise_cons.mpr ⟨?_, ih tail⟩
          intro entry member
          rcases mem_of_mem_insertMember member with rfl | later
          · exact greater
          · exact least entry later

theorem pairwise_sortMembers (members : List (String × Json)) :
    (sortMembers members).Pairwise (·.1 < ·.1) := by
  unfold sortMembers
  have grows : ∀ sorted : List (String × Json), sorted.Pairwise (·.1 < ·.1) →
      (members.foldl (fun sorted entry => insertMember entry.1 entry.2 sorted) sorted).Pairwise
        (·.1 < ·.1) := by
    induction members with
    | nil => exact fun _ sorted => sorted
    | cons entry rest ih =>
        intro sorted ordered
        exact ih _ (pairwise_insertMember entry.1 entry.2 ordered)
  exact grows [] List.Pairwise.nil

/-- What stands among sorted members is what counts for its name. -/
theorem valueOf?_of_mem_sortMembers {entry : String × Json} {members : List (String × Json)}
    (member : entry ∈ sortMembers members) : valueOf? entry.1 members = some entry.2 := by
  rw [valueOf?, ← find?_sortMembers]
  have ordered := pairwise_sortMembers members
  -- Sorted names differ, so the first entry of a name is the only one.
  generalize sortMembers members = sorted at member ordered
  induction sorted with
  | nil => cases member
  | cons first rest ih =>
      obtain ⟨least, tail⟩ := List.pairwise_cons.mp ordered
      rcases List.mem_cons.mp member with rfl | later
      · simp
      · have apart : first.1 ≠ entry.1 := (least entry later).ne
        rw [List.find?_cons_of_neg (by simpa using apart)]
        exact ih later tail

/-! ## Fields -/

theorem get_sortMembers {α : Type} (name : String) (decoder : Decoder α)
    (members : List (String × Json)) (result : α) :
    Found.get (sortMembers members) name decoder = .ok result ↔
      ∃ value, valueOf? name members = some value ∧ decoder value = .ok result := by
  rw [Found.get, valueOf?, find?_sortMembers]
  cases members.reverse.find? (·.1 == name) with
  | none => simp
  | some entry => simp

theorem getD_sortMembers {α : Type} (name : String) (decoder : Decoder α) (default : α)
    (members : List (String × Json)) (result : α) :
    Found.getD (sortMembers members) name decoder default = .ok result ↔
      (valueOf? name members = none ∧ default = result) ∨
        ∃ value, valueOf? name members = some value ∧ decoder value = .ok result := by
  rw [Found.getD, valueOf?, find?_sortMembers]
  cases members.reverse.find? (·.1 == name) with
  | none => simp
  | some entry => simp

theorem error?_of_eq_none_iff {α : Type} (name : String) (isRequired : Bool) (decoder : Decoder α)
    (value : Json) :
    (MemberRule.of name isRequired decoder).error? value = none ↔
      ∃ result, decoder value = .ok result := by
  cases read : decoder value <;> simp [MemberRule.of, read]

/-- Whether a field can be read from an object: from its value, or without one. -/
def MemberRule.Admits (members : List (String × Json)) (rule : MemberRule) : Prop :=
  (valueOf? rule.name members = none ∧ rule.isRequired = false) ∨
    ∃ value, valueOf? rule.name members = some value ∧ rule.error? value = none

theorem checkMembers_eq_ok {fields : List MemberRule} {members : List (String × Json)}
    (fine : ∀ entry ∈ members, ∀ field ∈ fields, field.name = entry.1 →
      field.error? entry.2 = none) :
    checkMembers fields members = .ok () := by
  induction members with
  | nil => rfl
  | cons entry rest ih =>
      obtain ⟨name, value⟩ := entry
      rw [List.forall_mem_cons] at fine
      have passes : ((fields.find? fun field => field.name == name).bind fun field =>
          field.error? value) = none := by
        cases found : fields.find? fun field => field.name == name with
        | none => rfl
        | some field =>
            have same : field.name = name := by simpa using List.find?_some found
            exact fine.1 field (List.mem_of_find?_eq_some found) same
      rw [checkMembers, passes]
      exact ih fine.2

theorem fieldsOf_object {whole : String} {fields : List MemberRule}
    {members : List (String × Json)} (admits : ∀ field ∈ fields, field.Admits members) :
    fieldsOf whole fields (.object members) = .ok (sortMembers members) := by
  have checked : checkMembers fields (sortMembers members) = .ok () := by
    apply checkMembers_eq_ok
    intro entry member field listed same
    have counts := valueOf?_of_mem_sortMembers member
    rw [← same] at counts
    rcases admits field listed with ⟨missing, -⟩ | ⟨value, found, fine⟩
    · rw [missing] at counts
      cases counts
    · rw [counts] at found
      rwa [← Option.some.inj found] at fine
  have complete : (fields.find? fun field =>
      field.isRequired && !((sortMembers members).any (·.1 == field.name))) = none := by
    rw [List.find?_eq_none]
    intro field listed lacking
    rw [Bool.and_eq_true, Bool.not_eq_true', List.any_eq_false] at lacking
    rcases admits field listed with ⟨-, optional⟩ | ⟨value, found, -⟩
    · rw [optional] at lacking
      exact Bool.false_ne_true lacking.1
    · rw [valueOf?, ← find?_sortMembers, Option.map_eq_some_iff] at found
      obtain ⟨entry, here, -⟩ := found
      exact lacking.2 entry (List.mem_of_find?_eq_some here) (by simpa using List.find?_some here)
  simp only [fieldsOf, checked, complete]
  rfl

end Wiring.Json
