import Wiring.Proofs.Files.Canonical
import Wiring.Workspace.Basic

/-!
# Paths of entries

A path that a name is joined to has the names of the path with that name behind them, and ends with
the text of the name.
-/

set_option autoImplicit false

namespace Wiring

/-! ## Leads and tails of texts -/

namespace Text

theorem isSome_dropLeadChars?_iff (lead cs : List Char) :
    (dropLeadChars? lead cs).isSome = true ↔ lead <+: cs := by
  induction lead generalizing cs with
  | nil => cases cs <;> simp [dropLeadChars?]
  | cons l lead ih =>
      cases cs with
      | nil => simp [dropLeadChars?]
      | cons c cs =>
          rw [dropLeadChars?, List.cons_prefix_cons]
          by_cases same : l = c
          · simp [same, ih]
          · simp [same]

theorem startsWith_iff (lead text : String) :
    startsWith lead text = true ↔ lead.toList <+: text.toList :=
  isSome_dropLeadChars?_iff _ _

theorem endsWith_iff (tail text : String) :
    endsWith tail text = true ↔ tail.toList <:+ text.toList := by
  rw [endsWith, isSome_dropLeadChars?_iff, List.reverse_prefix]

end Text

namespace Files

open Wiring.Text

/-! ## Parts between separators -/

theorem splitAtChar_cons_other {separator c : Char} (other : c ≠ separator) {rest first : List Char}
    {more : List (List Char)} (parts : splitAtChar separator rest = first :: more) :
    splitAtChar separator (c :: rest) = (c :: first) :: more := by
  rw [splitAtChar, if_neg (by simpa using other), parts]

theorem splitAtChar_ne_nil (separator : Char) (cs : List Char) : splitAtChar separator cs ≠ [] := by
  rw [splitAtChar_eq_splitOn]
  exact List.splitOn_ne_nil separator cs

theorem splitAtChar_of_notMem {separator : Char} {cs : List Char} (free : separator ∉ cs) :
    splitAtChar separator cs = [cs] := by
  induction cs with
  | nil => rfl
  | cons c rest ih =>
      rw [List.mem_cons, not_or] at free
      exact splitAtChar_cons_other (Ne.symm free.1) (ih free.2)

/-- The parts on both sides of a separator. -/
theorem splitAtChar_append (separator : Char) (front back : List Char) :
    splitAtChar separator (front ++ separator :: back) =
      splitAtChar separator front ++ splitAtChar separator back := by
  induction front with
  | nil => simp [splitAtChar]
  | cons c front ih =>
      by_cases same : c = separator
      · simp [splitAtChar, same, ih]
      · obtain ⟨first, more, parts⟩ :=
          List.exists_cons_of_ne_nil (splitAtChar_ne_nil separator front)
        rw [parts] at ih
        rw [List.cons_append, splitAtChar_cons_other same ih, splitAtChar_cons_other same parts]
        rfl

theorem suffix_intercalate (separator last : List Char) (front : List (List Char)) :
    last <:+ separator.intercalate (front ++ [last]) := by
  induction front with
  | nil => simp
  | cons first front ih =>
      obtain ⟨next, more, parts⟩ := List.exists_cons_of_ne_nil
        (List.append_ne_nil_of_right_ne_nil front (List.cons_ne_nil last []))
      rw [List.cons_append, parts, List.intercalate_cons_cons, ← parts]
      exact ih.trans (List.suffix_append _ _)

theorem suffix_of_getLast?_splitAtChar {separator : Char} {cs last : List Char}
    (ends : (splitAtChar separator cs).getLast? = some last) : last <:+ cs := by
  obtain ⟨front, parts⟩ := List.getLast?_eq_some_iff.mp ends
  rw [splitAtChar_eq_splitOn] at parts
  have whole : [separator].intercalate (cs.splitOn separator) = cs :=
    List.intercalate_splitOn separator
  rw [parts] at whole
  rw [← whole]
  exact suffix_intercalate [separator] last front

end Files

namespace Workspace

open Wiring.Files
open Wiring.Text

/-! ## Joined names -/

variable {name : String}

theorem isAbsolute_iff (path : String) : isAbsolute path = true ↔ ['/'] <+: path.toList :=
  startsWith_iff "/" path

theorem isAbsolute_of_isName (named : IsName name) : isAbsolute name = false := by
  rw [Bool.eq_false_iff, Ne, isAbsolute_iff]
  exact fun leads => named.2.2 (leads.subset List.mem_cons_self)

theorem join_of_isName (base : String) (named : IsName name) :
    join base name = if base = "" ∨ ['/'] <:+ base.toList then base ++ name
      else base ++ "/" ++ name := by
  rw [join, if_neg (by simp [isAbsolute_of_isName named])]
  have ends : endsWith "/" base = true ↔ ['/'] <:+ base.toList := endsWith_iff "/" base
  simp only [Bool.or_eq_true, ends, String.isEmpty_iff]

theorem isAbsolute_join (base : String) (named : IsName name) :
    isAbsolute (join base name) = isAbsolute base := by
  rw [Bool.eq_iff_iff, isAbsolute_iff, isAbsolute_iff, join_of_isName base named]
  by_cases empty : base = ""
  · subst empty
    have relative := isAbsolute_of_isName named
    rw [Bool.eq_false_iff, Ne, isAbsolute_iff] at relative
    simp [relative]
  · obtain ⟨c, rest, chars⟩ := List.exists_cons_of_ne_nil (mt String.toList_eq_nil_iff.mp empty)
    split <;> simp [chars]

/-- The names of a path, with a name in the place of the empty one at the end if there is one, and
else behind them. -/
theorem pathNames_join (base : String) (named : IsName name) :
    ∃ front, pathNames (join base name) = front ++ [name] ∧
      (pathNames base = front ∨ pathNames base = front ++ [""]) := by
  have alone : splitAtChar '/' name.toList = [name.toList] := splitAtChar_of_notMem named.2.2
  have slash : "/".toList = ['/'] := by decide
  rw [join_of_isName base named]
  split
  · rename_i closed
    rcases closed with rfl | ⟨front, chars⟩
    · exact ⟨[], by simp [pathNames, alone], .inr rfl⟩
    · refine ⟨(splitAtChar '/' front).map String.ofList, ?_, .inr ?_⟩
      · rw [pathNames, String.toList_append, ← chars, List.append_assoc, List.singleton_append,
          splitAtChar_append, alone, List.map_append, List.map_singleton, String.ofList_toList]
      · rw [pathNames, ← chars, splitAtChar_append, List.map_append]
        rfl
  · refine ⟨pathNames base, ?_, .inl rfl⟩
    rw [pathNames, String.toList_append, String.toList_append, slash, List.append_assoc,
      List.singleton_append, splitAtChar_append, alone, List.map_append, List.map_singleton,
      String.ofList_toList, pathNames]

def properNames (path : String) : List String :=
  (pathNames path).filter fun part => part != "" && part != "."

def pathLead (path : String) : List String :=
  if isAbsolute path then ["/"] else if (pathNames path).head? == some "." then ["."] else []

theorem components_eq (path : String) : components path = pathLead path ++ properNames path := by
  simp only [components, pathLead, properNames, pathNames]
  split
  · rfl
  · split <;> simp_all

theorem properNames_join (base : String) (named : IsName name) :
    properNames (join base name) = properNames base ++ [name] := by
  obtain ⟨front, joined, names⟩ := pathNames_join base named
  have kept : [name].filter (fun part => part != "" && part != ".") = [name] :=
    filter_names (by simpa using named)
  rw [properNames, properNames, joined, List.filter_append, kept]
  rcases names with names | names
  · rw [names]
  · rw [names, List.filter_append]
    simp

theorem pathLead_join (base : String) (named : IsName name) :
    pathLead (join base name) = pathLead base := by
  obtain ⟨front, joined, names⟩ := pathNames_join base named
  have head : ((pathNames (join base name)).head? == some ".") =
      ((pathNames base).head? == some ".") := by
    rw [joined]
    cases front with
    | nil =>
        rcases names with names | names
        · exact absurd names (by simp [pathNames, splitAtChar_ne_nil])
        · simp [names, named.2.1]
    | cons first front => rcases names with names | names <;> simp [names]
  rw [pathLead, pathLead, isAbsolute_join base named, head]

theorem components_join (base : String) (named : IsName name) :
    components (join base name) = components base ++ [name] := by
  rw [components_eq, components_eq, pathLead_join base named, properNames_join base named,
    List.append_assoc]

theorem getLast?_splitAtChar_append {separator : Char} (front : List Char) {tail : List Char}
    (free : separator ∉ tail) :
    ∃ last, (splitAtChar separator (front ++ tail)).getLast? = some last ∧ tail <:+ last := by
  induction front with
  | nil => exact ⟨tail, by rw [List.nil_append, splitAtChar_of_notMem free]; rfl, List.suffix_rfl⟩
  | cons c front ih =>
      obtain ⟨last, ends, tailed⟩ := ih
      obtain ⟨first, more, parts⟩ :=
        List.exists_cons_of_ne_nil (splitAtChar_ne_nil separator (front ++ tail))
      rw [parts] at ends
      by_cases same : c = separator
      · refine ⟨last, ?_, tailed⟩
        rw [List.cons_append, splitAtChar, if_pos (by simpa using same), parts,
          List.getLast?_cons_cons, ends]
      · rw [List.cons_append, splitAtChar_cons_other same parts]
        cases more with
        | nil =>
            rw [List.getLast?_singleton, Option.some_inj] at ends
            exact ⟨c :: first, rfl, (ends.symm ▸ tailed).trans (List.suffix_cons c first)⟩
        | cons second more => exact ⟨last, by rwa [List.getLast?_cons_cons] at ends ⊢, tailed⟩

theorem pathNames_of_endsWith {tail path : String} (free : '/' ∉ tail.toList)
    (tailed : tail.toList <:+ path.toList) :
    ∃ last, (pathNames path).getLast? = some last ∧ tail.toList <:+ last.toList := by
  obtain ⟨front, chars⟩ := tailed
  obtain ⟨last, ends, inLast⟩ := getLast?_splitAtChar_append front free
  refine ⟨String.ofList last, ?_, by rwa [String.toList_ofList]⟩
  rw [pathNames, List.getLast?_map, ← chars, ends]
  rfl

theorem suffix_join (base path : String) : path.toList <:+ (join base path).toList := by
  unfold join
  split
  · exact List.suffix_rfl
  · split
    · exact ⟨_, String.toList_append.symm⟩
    · exact ⟨_, String.toList_append.symm⟩

theorem endsWith_of_pathNames {tail path : String} (ends : (pathNames path).getLast? = some name)
    (tailed : tail.toList <:+ name.toList) : tail.toList <:+ path.toList := by
  rw [pathNames, List.getLast?_map, Option.map_eq_some_iff] at ends
  obtain ⟨last, ends, rfl⟩ := ends
  rw [String.toList_ofList] at tailed
  exact tailed.trans (suffix_of_getLast?_splitAtChar ends)

end Workspace

end Wiring
