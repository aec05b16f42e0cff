import Wiring.Files.Canonical

/-!
# Canonical spellings

The canonical spelling of a path has the components of the path, so two paths are spelled alike
exactly if they are the same path.
-/

set_option autoImplicit false

namespace Wiring.Files

open Wiring.Text

/-! ## Parts of a text -/

theorem splitAtChar_eq_splitOn (separator : Char) (cs : List Char) :
    splitAtChar separator cs = cs.splitOn separator := by
  induction cs with
  | nil => rfl
  | cons c rest ih =>
      rw [splitAtChar, List.splitOn_cons_eq_if_modifyHead, ih]
      cases parts : rest.splitOn separator with
      | nil => exact absurd parts (List.splitOn_ne_nil separator rest)
      | cons first more => rfl

theorem notMem_of_mem_splitAtChar (separator : Char) (cs : List Char) :
    ∀ part ∈ splitAtChar separator cs, separator ∉ part := by
  induction cs with
  | nil => simp [splitAtChar]
  | cons c rest ih =>
      rw [splitAtChar]
      by_cases same : c = separator
      · simpa [same] using ih
      · cases parts : splitAtChar separator rest with
        | nil => simp [same, Ne.symm same]
        | cons first more =>
            rw [parts] at ih
            obtain ⟨ofFirst, ofMore⟩ := List.forall_mem_cons.mp ih
            simpa [same, Ne.symm same, ofFirst] using ofMore

theorem split_intercalate {parts : List String} (nonempty : parts ≠ [])
    (free : ∀ part ∈ parts, '/' ∉ part.toList) :
    (splitAtChar '/' ("/".intercalate parts).toList).map String.ofList = parts := by
  have separated : ∀ part ∈ parts.map String.toList, '/' ∉ part := by
    simpa using free
  have slash : "/".toList = ['/'] := by decide
  rw [splitAtChar_eq_splitOn, String.toList_intercalate, slash,
    List.splitOn_intercalate '/' separated (by simpa using nonempty), List.map_map]
  simp [Function.comp_def]

/-! ## Components -/

/-- What a component that is neither the root nor a dot at the head is. -/
def IsName (part : String) : Prop :=
  part ≠ "" ∧ part ≠ "." ∧ '/' ∉ part.toList

/-- What the components of a path are: names, behind the root or a dot if there is one. -/
inductive IsComponents : List String → Prop where
  | relative (names : List String) (named : ∀ name ∈ names, IsName name) : IsComponents names
  | absolute (names : List String) (named : ∀ name ∈ names, IsName name) :
      IsComponents ("/" :: names)
  | dotted (names : List String) (named : ∀ name ∈ names, IsName name) :
      IsComponents ("." :: names)

theorem isComponents_components (path : String) : IsComponents (components path) := by
  have named : ∀ name ∈ ((splitAtChar '/' path.toList).map String.ofList).filter
      (fun part => part != "" && part != "."), IsName name := by
    intro name member
    simp only [List.mem_filter, List.mem_map, Bool.and_eq_true, bne_iff_ne, ne_eq] at member
    obtain ⟨⟨part, listed, rfl⟩, nonempty, noDot⟩ := member
    refine ⟨nonempty, noDot, ?_⟩
    rw [String.toList_ofList]
    exact notMem_of_mem_splitAtChar '/' path.toList part listed
  simp only [components]
  split
  · exact .absolute _ named
  · split
    · exact .dotted _ named
    · exact .relative _ named

theorem filter_names {names : List String} (named : ∀ name ∈ names, IsName name) :
    names.filter (fun part => part != "" && part != ".") = names := by
  rw [List.filter_eq_self]
  intro name member
  simp [(named name member).1, (named name member).2.1]

theorem isAbsolute_slash (text : String) : isAbsolute ("/" ++ text) = true := by
  simp [isAbsolute, startsWith, dropLeadChars?]

theorem isAbsolute_intercalate {first : String} (rest : List String) (nonempty : first ≠ "")
    (free : '/' ∉ first.toList) : isAbsolute ("/".intercalate (first :: rest)) = false := by
  cases chars : first.toList with
  | nil => exact absurd (String.toList_eq_nil_iff.mp chars) nonempty
  | cons c more =>
      have apart : '/' ≠ c := by
        rintro rfl
        simp [chars] at free
      cases rest <;>
        simp [isAbsolute, startsWith, dropLeadChars?, chars, apart, String.intercalate_cons_cons]

theorem components_intercalate {first : String} {rest : List String} (nonempty : first ≠ "")
    (free : ∀ part ∈ first :: rest, '/' ∉ part.toList) :
    components ("/".intercalate (first :: rest)) =
      if first = "." then "." :: (first :: rest).filter (fun part => part != "" && part != ".")
      else (first :: rest).filter (fun part => part != "" && part != ".") := by
  have relative := isAbsolute_intercalate rest nonempty (free first (List.mem_cons_self ..))
  simp only [components, relative, split_intercalate (List.cons_ne_nil first rest) free]
  simp

theorem components_ofComponents {parts : List String} (valid : IsComponents parts) :
    components (ofComponents parts) = parts := by
  have free : ∀ names : List String, (∀ name ∈ names, IsName name) →
      ∀ name ∈ names, '/' ∉ name.toList :=
    fun names named name member => (named name member).2.2
  cases valid with
  | relative parts named =>
      cases parts with
      | nil => rfl
      | cons first rest =>
          obtain ⟨nonempty, noDot, firstFree⟩ := named first (List.mem_cons_self ..)
          have noRoot : first ≠ "/" := by
            rintro rfl
            simp at firstFree
          have spelled : ofComponents (first :: rest) = "/".intercalate (first :: rest) := by
            simp [ofComponents, noRoot]
          rw [spelled, components_intercalate nonempty (free _ named), if_neg noDot,
            filter_names named]
  | absolute names named =>
      cases names with
      | nil => rfl
      | cons first rest =>
          have spelled : ofComponents ("/" :: first :: rest) =
              "/" ++ "/".intercalate (first :: rest) := rfl
          have behindNothing : "/" ++ "/".intercalate (first :: rest) =
              "/".intercalate ("" :: first :: rest) := by
            simp [String.intercalate_cons_cons]
          have parts := split_intercalate (List.cons_ne_nil "" (first :: rest))
            (List.forall_mem_cons.mpr ⟨by simp, free _ named⟩)
          rw [← behindNothing] at parts
          simp only [spelled, components, isAbsolute_slash, parts, if_true]
          have names := filter_names named
          rw [List.filter_cons_of_neg (by simp), names]
  | dotted names named =>
      have spelled : ofComponents ("." :: names) = "/".intercalate ("." :: names) := by
        simp [ofComponents]
      have dotFree : '/' ∉ ".".toList := by decide
      rw [spelled, components_intercalate (by decide)
        (List.forall_mem_cons.mpr ⟨dotFree, free _ named⟩), if_pos rfl,
        List.filter_cons_of_neg (by simp), filter_names named]

theorem components_canonical (path : String) : components (canonical path) = components path :=
  components_ofComponents (isComponents_components path)

theorem canonical_eq_iff (left right : String) :
    canonical left = canonical right ↔ samePath left right = true := by
  rw [samePath, beq_iff_eq]
  constructor
  · intro same
    rw [← components_canonical left, same, components_canonical]
  · intro same
    rw [canonical, canonical, same]

end Wiring.Files
