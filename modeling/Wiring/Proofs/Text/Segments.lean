import Wiring.Text.Segments

/-!
# Segments and their texts

A text of segments is the texts of its parts with `::` between them, and segments without colons are
read back from their text: see `joinSegments_segments` and `segments_joinSegments`.
-/

set_option autoImplicit false

namespace Wiring.Text

/-! ## Joined -/

theorem joinSegments_singleton (part : String) : joinSegments [part] = part :=
  String.intercalate_singleton

theorem joinSegments_cons (first second : String) (rest : List String) :
    joinSegments (first :: second :: rest) = first ++ "::" ++ joinSegments (second :: rest) :=
  String.intercalate_cons_cons

theorem joinSegments_append {front back : List String} (front_nonempty : front ≠ [])
    (back_nonempty : back ≠ []) :
    joinSegments (front ++ back) = joinSegments front ++ "::" ++ joinSegments back :=
  String.intercalate_append_of_ne_nil front_nonempty back_nonempty

theorem joinSegments_concat (first : String) (rest : List String) (last : String) :
    joinSegments (first :: (rest ++ [last])) = joinSegments (first :: rest) ++ "::" ++ last := by
  have joined : joinSegments (first :: rest ++ [last]) =
      joinSegments (first :: rest) ++ "::" ++ joinSegments [last] :=
    joinSegments_append (List.cons_ne_nil _ _) (List.cons_ne_nil _ _)
  rwa [joinSegments_singleton] at joined

theorem joinSegments_ne_of_inserted {front : List String} (front_nonempty : front ≠ [])
    (inserted : String) (back : List String) :
    joinSegments (front ++ inserted :: back) ≠ joinSegments (front ++ back) := by
  intro same
  have lengths := congrArg String.length same
  have colons : "::".length = 2 := by decide
  rw [joinSegments_append front_nonempty (List.cons_ne_nil inserted back)] at lengths
  cases back with
  | nil =>
      rw [List.append_nil, joinSegments_singleton, String.length_append, String.length_append,
        colons] at lengths
      omega
  | cons next rest =>
      rw [joinSegments_append front_nonempty (List.cons_ne_nil next rest),
        joinSegments_cons] at lengths
      simp only [String.length_append, colons] at lengths
      omega

/-! ## Split -/

theorem segmentsOfChars_ne_nil (cs : List Char) : segmentsOfChars cs ≠ [] := by
  fun_induction segmentsOfChars cs <;> simp

theorem segments_ne_nil (text : String) : segments text ≠ [] := by
  simpa [segments] using segmentsOfChars_ne_nil text.toList

theorem joinSegments_ofList_cons (c : Char) (first : List Char) (more : List (List Char)) :
    (joinSegments (((c :: first) :: more).map String.ofList)).toList =
      c :: (joinSegments ((first :: more).map String.ofList)).toList := by
  cases more with
  | nil => simp [joinSegments_singleton]
  | cons second more => simp [joinSegments_cons]

theorem joinSegments_segments (text : String) : joinSegments (segments text) = text := by
  suffices whole : ∀ cs, (joinSegments ((segmentsOfChars cs).map String.ofList)).toList = cs by
    rw [← String.toList_inj, segments, whole]
  intro cs
  fun_induction segmentsOfChars cs with
  | case1 => decide
  | case2 rest ih =>
      obtain ⟨first, more, split⟩ := List.exists_cons_of_ne_nil (segmentsOfChars_ne_nil rest)
      rw [split] at ih ⊢
      simp only [List.map_cons] at ih ⊢
      rw [joinSegments_cons, String.toList_append, ih]
      rfl
  | case3 c rest _ none_split => exact absurd none_split (segmentsOfChars_ne_nil rest)
  | case4 c rest _ first more split ih =>
      rw [split] at ih
      rw [joinSegments_ofList_cons, ih]

theorem segmentsOfChars_cons {c : Char} (other : c ≠ ':') {rest first : List Char}
    {more : List (List Char)} (split : segmentsOfChars rest = first :: more) :
    segmentsOfChars (c :: rest) = (c :: first) :: more := by
  rw [segmentsOfChars.eq_3 c rest (fun _ colon _ => other colon), split]

theorem segmentsOfChars_of_plain {name : List Char} (plain : ':' ∉ name) :
    segmentsOfChars name = [name] := by
  induction name with
  | nil => rfl
  | cons c rest ih =>
      rw [List.mem_cons, not_or] at plain
      exact segmentsOfChars_cons (Ne.symm plain.1) (ih plain.2)

theorem segmentsOfChars_append {name : List Char} (plain : ':' ∉ name) (rest : List Char) :
    segmentsOfChars (name ++ ':' :: ':' :: rest) = name :: segmentsOfChars rest := by
  induction name with
  | nil => rfl
  | cons c more ih =>
      rw [List.mem_cons, not_or] at plain
      exact segmentsOfChars_cons (Ne.symm plain.1) (ih plain.2)

theorem segments_joinSegments {parts : List String} (nonempty : parts ≠ [])
    (plain : ∀ part ∈ parts, ':' ∉ part.toList) : segments (joinSegments parts) = parts := by
  induction parts with
  | nil => exact absurd rfl nonempty
  | cons first rest ih =>
      rw [List.forall_mem_cons] at plain
      cases rest with
      | nil =>
          rw [joinSegments_singleton, segments, segmentsOfChars_of_plain plain.1]
          simp
      | cons second rest =>
          have later := ih (List.cons_ne_nil second rest) plain.2
          have colons : "::".toList = [':', ':'] := by decide
          rw [segments] at later ⊢
          rw [joinSegments_cons, String.toList_append, String.toList_append, colons,
            List.append_assoc, List.cons_append, List.cons_append, List.nil_append,
            segmentsOfChars_append plain.1, List.map_cons, later, String.ofList_toList]

end Wiring.Text
