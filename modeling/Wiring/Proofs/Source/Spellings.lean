import Wiring.Proofs.Source.Imports
import Wiring.Proofs.Source.Places

/-!
# Spellings of a path

In a namespace of the crate, a path from the crate can be written with `self` and `super`, through a
name that is imported, or below the namespace.  All of these resolve to it but those through `self`
under another name: see `resolvePath_spellings` and `spelling_lost`.
-/

set_option autoImplicit false

namespace Wiring.Source

open Wiring.Text

/-- A segment that is a name. -/
structure Plain (segment : String) : Prop where
  whole : ':' ∉ segment.toList
  apart : segment ≠ "crate"
  named : isRelative segment = false

instance decidablePlain : DecidablePred Plain :=
  fun segment => decidable_of_iff
    (':' ∉ segment.toList ∧ segment ≠ "crate" ∧ isRelative segment = false)
    ⟨fun ⟨whole, apart, named⟩ => ⟨whole, apart, named⟩, fun plain =>
      ⟨plain.whole, plain.apart, plain.named⟩⟩

/-- Paths that begin with a keyword, and the paths from the crate that they stand for in a
namespace. -/
inductive Rooted (inside : List String) : List String → List String → Prop where
  | crate (rest : List String) : Rooted inside ("crate" :: rest) ("crate" :: rest)
  | relative {lead rest : List String} (nonempty : lead ≠ [])
      (relative : ∀ segment ∈ lead, isRelative segment = true)
      (ends : ∀ first ∈ rest.head?, isRelative first = false)
      (within : lead.count "super" ≤ inside.length) :
      Rooted inside (lead ++ rest)
        ("crate" :: (inside.take (inside.length - lead.count "super") ++ rest))

def IsChild (spaces inside : List String) (first : String) : Prop :=
  joinSegments ("crate" :: (inside ++ [first])) ∈ spaces

instance decidableIsChild (spaces inside : List String) : DecidablePred (IsChild spaces inside) :=
  fun _ => inferInstanceAs (Decidable (_ ∈ _))

/-- Paths of use items, and the paths from the crate that they stand for. -/
inductive Denotes (spaces inside : List String) : List String → List String → Prop where
  | rooted {path full : List String} (rooted : Rooted inside path full) :
      Denotes spaces inside path full
  | child {first : String} {rest : List String} (plain : Plain first)
      (known : IsChild spaces inside first) :
      Denotes spaces inside (first :: rest) ("crate" :: (inside ++ first :: rest))

/-- What may be written in a scope for a path from the crate. Names of the prelude that stand alone
are left out. -/
inductive Spells (spaces inside : List String) (scope : Scope) (leaves : List UseLeaf) :
    List String → List String → Prop where
  | rooted {written full : List String} (rooted : Rooted inside written full) :
      Spells spaces inside scope leaves written full
  | inside {first : String} {rest : List String} (unbound : scope.import? first = none)
      (here : IsChild spaces inside first ∨ rest = [] ∨ isTypeLike first = true)
      (apart : rest = [] → first ∉ preludeNames) :
      Spells spaces inside scope leaves (first :: rest) ("crate" :: (inside ++ first :: rest))
  | imported {first : String} {rest target : List String} {leaf : UseLeaf} {item : FlatUse}
      (plain : Plain first) (bound : binder? leaves first = some leaf)
      (flat : leaf.flat? = some item) (denotes : Denotes spaces inside item.path target)
      (apart : rest = [] → first ∉ preludeNames) :
      Spells spaces inside scope leaves (first :: rest) (target ++ rest)

def BeginsLost (leaves : List UseLeaf) (written : List String) : Prop :=
  ∃ first ∈ written.head?, Plain first ∧ ∃ leaf, binder? leaves first = some leaf ∧ leaf.IsLost

section Resolving

variable {spaces inside : List String} {scope : Scope}

/-! ## Paths that begin with a keyword -/

theorem Rooted.seenFrom {path full : List String} (rooted : Rooted inside path full) :
    seenFrom ("crate" :: inside) path = full := by
  cases rooted with
  | crate rest => exact seenFrom_of_not_isRelative _ (by decide)
  | @relative lead rest nonempty relative ends within =>
      have room : max 1 (("crate" :: inside).length - lead.count "super") =
          inside.length - lead.count "super" + 1 := by
        rw [List.length_cons]
        omega
      rw [seenFrom_of_isRelative _ rest nonempty relative ends, room, List.take_succ_cons,
        List.cons_append]

theorem Rooted.begins {path full : List String} (rooted : Rooted inside path full) :
    ∃ rest, full = "crate" :: rest := by
  cases rooted with
  | crate rest => exact ⟨rest, rfl⟩
  | relative => exact ⟨_, rfl⟩

theorem resolvePath_of_rooted (space : segments scope.space = "crate" :: inside)
    {written full : List String} (rooted : Rooted inside written full) :
    resolvePath spaces scope written = joinSegments full := by
  have seen := rooted.seenFrom
  cases rooted with
  | crate rest => rfl
  | @relative lead rest nonempty relative ends within =>
      obtain ⟨first, more, rfl⟩ := List.exists_cons_of_ne_nil nonempty
      have keyword : (first == "self" || first == "super") = true := relative first (by simp)
      have apart : (first == "crate") = false := by
        rw [Bool.eq_false_iff]
        intro same
        rw [beq_iff_eq.mp same] at keyword
        exact absurd keyword (by decide)
      rw [List.cons_append, resolvePath, apart, if_neg Bool.false_ne_true, if_pos keyword,
        absolute_eq, space, ← List.cons_append, seen]

/-! ## Paths below the namespace -/

theorem joinSegments_inside (space : scope.space = joinSegments ("crate" :: inside))
    {path : List String} (nonempty : path ≠ []) :
    scope.space ++ "::" ++ joinSegments path = joinSegments ("crate" :: (inside ++ path)) := by
  rw [space, ← joinSegments_append (List.cons_ne_nil _ _) nonempty, List.cons_append]

theorem belowScope_child (space : scope.space = joinSegments ("crate" :: inside)) {first : String}
    (plain : Plain first) (known : IsChild spaces inside first) (rest : List String) :
    belowScope spaces scope (first :: rest) =
      joinSegments ("crate" :: (inside ++ first :: rest)) := by
  have child : scope.space ++ "::" ++ first = joinSegments ("crate" :: (inside ++ [first])) := by
    rw [← joinSegments_inside space (List.cons_ne_nil _ _), joinSegments_singleton]
  have found : scope.space ++ "::" ++ first ∈ spaces := by
    rw [child]
    exact known
  rw [← joinSegments_inside space (List.cons_ne_nil _ _)]
  simp [belowScope, found, plain.apart]

theorem belowScope_crate (rest : List String) :
    belowScope spaces scope ("crate" :: rest) = joinSegments ("crate" :: rest) := by
  simp [belowScope]

/-- A path that begins with a name is looked up unless it is a name of the prelude. -/
theorem resolvePath_plain {first : String} {rest : List String} (plain : Plain first)
    (apart : rest = [] → first ∉ preludeNames) :
    resolvePath spaces scope (first :: rest) =
      match scope.import? first with
      | some found => belowScope spaces scope (segments found ++ rest)
      | none =>
          if rest.isEmpty || isTypeLike first then
            scope.space ++ "::" ++ joinSegments (first :: rest)
          else belowScope spaces scope (first :: rest) := by
  have named : (first == "self" || first == "super") = false := plain.named
  have other : (rest.isEmpty && preludeNames.contains first) = false := by
    rw [Bool.and_eq_false_iff]
    cases rest with
    | nil => exact Or.inr (by simpa using apart rfl)
    | cons next rest => exact Or.inl rfl
  rw [resolvePath, if_neg (by simp [plain.apart]), if_neg (by simp [named])]
  exact if_neg (by rw [other]; exact Bool.false_ne_true)

theorem resolvePath_of_inside (space : scope.space = joinSegments ("crate" :: inside))
    {first : String} {rest : List String} (plain : Plain first)
    (unbound : scope.import? first = none)
    (here : IsChild spaces inside first ∨ rest = [] ∨ isTypeLike first = true)
    (apart : rest = [] → first ∉ preludeNames) :
    resolvePath spaces scope (first :: rest) =
      joinSegments ("crate" :: (inside ++ first :: rest)) := by
  rw [resolvePath_plain plain apart, unbound]
  dsimp only
  by_cases own : (rest.isEmpty || isTypeLike first) = true
  · rw [if_pos own, joinSegments_inside space (List.cons_ne_nil _ _)]
  · rw [if_neg own]
    rw [Bool.or_eq_true, List.isEmpty_iff] at own
    exact belowScope_child space plain (here.resolve_right own) rest

/-! ## Paths through imports -/

theorem resolvePath_of_import (space : scope.space = joinSegments ("crate" :: inside))
    {first text : String} {path full rest : List String} (plain : Plain first)
    (bound : scope.import? first = some text) (denotes : Denotes spaces inside path full)
    (whole : ∀ segment ∈ full, ':' ∉ segment.toList)
    (target : text = joinSegments (seenFrom ("crate" :: inside) path))
    (apart : rest = [] → first ∉ preludeNames) :
    resolvePath spaces scope (first :: rest) = joinSegments (full ++ rest) := by
  rw [resolvePath_plain plain apart, bound, target]
  dsimp only
  cases denotes with
  | rooted rooted =>
      obtain ⟨names, rfl⟩ := rooted.begins
      rw [rooted.seenFrom, segments_joinSegments (List.cons_ne_nil _ _) whole, List.cons_append,
        belowScope_crate]
  | @child head more headPlain known =>
      have wholePath : ∀ segment ∈ head :: more, ':' ∉ segment.toList := by
        intro segment member
        exact whole segment (List.mem_cons_of_mem _ (List.mem_append_right _ member))
      rw [seenFrom_of_not_isRelative _ headPlain.named,
        segments_joinSegments (List.cons_ne_nil _ _) wholePath, List.cons_append,
        belowScope_child space headPlain known]
      simp

theorem Denotes.ne_nil {path full : List String} (denotes : Denotes spaces inside path full) :
    full ≠ [] := by
  cases denotes with
  | rooted rooted =>
      obtain ⟨names, rfl⟩ := rooted.begins
      exact List.cons_ne_nil _ _
  | child _ _ => exact List.cons_ne_nil _ _

/-- `self` behind a path that is more than `self` and `super` is a segment like others. -/
theorem Denotes.concat_self {path full : List String} (denotes : Denotes spaces inside path full)
    (named : ∃ segment ∈ path, isRelative segment = false) :
    Denotes spaces inside (path ++ ["self"]) (full ++ ["self"]) := by
  cases denotes with
  | rooted rooted =>
      cases rooted with
      | crate rest => exact .rooted (.crate (rest ++ ["self"]))
      | @relative lead rest nonempty relative ends within =>
          obtain ⟨segment, member, name⟩ := named
          have behind : segment ∈ rest := by
            rcases List.mem_append.mp member with front | behind
            · simp [relative segment front] at name
            · exact behind
          obtain ⟨first, more, rfl⟩ := List.exists_cons_of_ne_nil (List.ne_nil_of_mem behind)
          have longer : Rooted inside (lead ++ (first :: more ++ ["self"])) _ :=
            .relative nonempty relative ends within
          have denoted : Denotes spaces inside _ _ := .rooted longer
          simpa only [List.append_assoc, List.cons_append] using denoted
  | @child first rest plain known =>
      rw [List.cons_append, List.cons_append, List.append_assoc, List.cons_append]
      exact .child plain known

end Resolving

/-! ## All spellings -/

theorem space_addUses (scope : Scope) (trees : List UseTree) :
    (scope.addUses trees).space = scope.space := by
  induction trees generalizing scope with
  | nil => rfl
  | cons tree rest ih => exact (ih (scope.addUse tree)).trans (scope.space_addUse tree)

theorem import?_addUses (scope : Scope) (trees : List UseTree) (name : String) :
    (scope.addUses trees).import? name =
      (((binder? (trees.flatMap UseTree.leaves) name).bind UseLeaf.taken?).map
        (·.target scope.space)).or (scope.import? name) := by
  rw [Scope.addUses_leaves]
  exact import?_addUses_leaves UseLeaf.bound?_taken scope _ name

theorem Rooted.not_beginsLost {inside written full : List String}
    (rooted : Rooted inside written full) (leaves : List UseLeaf) : ¬BeginsLost leaves written := by
  rintro ⟨first, begins, plain, -⟩
  cases rooted with
  | crate rest =>
      obtain rfl : "crate" = first := Option.some.inj begins
      exact plain.apart rfl
  | @relative lead rest nonempty relative ends within =>
      obtain ⟨head, more, rfl⟩ := List.exists_cons_of_ne_nil nonempty
      obtain rfl : head = first := Option.some.inj begins
      have keyword := relative head List.mem_cons_self
      simp [plain.named] at keyword

theorem exists_of_binder? {leaves : List UseLeaf} {name : String} {leaf : UseLeaf}
    (bound : binder? leaves name = some leaf) :
    ∃ item, leaf.flat? = some item ∧ item.binding = name := by
  have binds : leaf.bound? = some name := by
    simpa using List.find?_some bound
  exact Option.map_eq_some_iff.mp binds

theorem beginsLost_cons_iff {leaves : List UseLeaf} {first : String} {leaf : UseLeaf}
    (plain : Plain first) (bound : binder? leaves first = some leaf) (rest : List String) :
    BeginsLost leaves (first :: rest) ↔ leaf.IsLost := by
  constructor
  · rintro ⟨name, begins, -, other, otherBound, lost⟩
    obtain rfl : first = name := Option.some.inj begins
    obtain rfl : leaf = other := Option.some.inj (bound.symm.trans otherBound)
    exact lost
  · intro lost
    exact ⟨first, rfl, plain, leaf, bound, lost⟩

theorem not_beginsLost_of_unbound {scope : Scope} {trees : List UseTree} {first : String}
    (unbound : (scope.addUses trees).import? first = none) (rest : List String) :
    ¬BeginsLost (trees.flatMap UseTree.leaves) (first :: rest) := by
  rintro ⟨name, begins, -, leaf, bound, -⟩
  obtain rfl : first = name := Option.some.inj begins
  obtain ⟨item, flat, -⟩ := exists_of_binder? bound
  obtain ⟨taken, read, -⟩ := UseLeaf.taken_of_flat flat
  rw [import?_addUses, bound] at unbound
  simp [read] at unbound

section Whole

variable {spaces inside : List String} {start : Scope} {uses : List UseTree}

theorem segments_space (space : start.space = joinSegments ("crate" :: inside))
    (plain : ∀ segment ∈ inside, Plain segment) :
    segments start.space = "crate" :: inside := by
  rw [space]
  apply segments_joinSegments (List.cons_ne_nil _ _)
  rw [List.forall_mem_cons]
  exact ⟨by decide, fun segment member => (plain segment member).whole⟩

/-- A path through an import comes to what the import means unless that is lost. -/
theorem resolvePath_imported_iff (space : start.space = joinSegments ("crate" :: inside))
    (inside_plain : ∀ segment ∈ inside, Plain segment) {first : String} {rest target : List String}
    {leaf : UseLeaf} {item : FlatUse} (plain : Plain first)
    (bound : binder? (uses.flatMap UseTree.leaves) first = some leaf)
    (flat : leaf.flat? = some item) (denotes : Denotes spaces inside item.path target)
    (whole : ∀ segment ∈ target, ':' ∉ segment.toList)
    (apart : rest = [] → first ∉ preludeNames) :
    resolvePath spaces (start.addUses uses) (first :: rest) = joinSegments (target ++ rest) ↔
      ¬leaf.IsLost := by
  have same : (start.addUses uses).space = joinSegments ("crate" :: inside) :=
    (space_addUses start uses).trans space
  have split := segments_space space inside_plain
  obtain ⟨taken, read, lost, kept⟩ := UseLeaf.taken_of_flat flat
  have found : (start.addUses uses).import? first = some (taken.target start.space) := by
    rw [import?_addUses, bound]
    simp [read]
  constructor
  · intro resolved isLost
    obtain ⟨path, named⟩ := lost isLost
    have longer : ∀ segment ∈ target ++ ["self"], ':' ∉ segment.toList := by
      rw [List.forall_mem_append]
      exact ⟨whole, by decide⟩
    rw [resolvePath_of_import same plain found (denotes.concat_self named) longer
      (by rw [FlatUse.target, split, path]) apart, List.append_assoc] at resolved
    exact joinSegments_ne_of_inserted denotes.ne_nil "self" rest resolved
  · intro isKept
    exact resolvePath_of_import same plain found denotes whole
      (by rw [FlatUse.target, split, kept isKept]) apart

/-- What may be written for a path from the crate resolves to it, unless it begins with a name that
stands for `self` below more than `self` and `super`. -/
theorem resolvePath_spellings (space : start.space = joinSegments ("crate" :: inside))
    (inside_plain : ∀ segment ∈ inside, Plain segment) {names written : List String}
    (plain : ∀ segment ∈ names, Plain segment)
    (spells : Spells spaces inside (start.addUses uses) (uses.flatMap UseTree.leaves) written
      ("crate" :: names)) :
    resolvePath spaces (start.addUses uses) written = joinSegments ("crate" :: names) ↔
      ¬BeginsLost (uses.flatMap UseTree.leaves) written := by
  have same : (start.addUses uses).space = joinSegments ("crate" :: inside) :=
    (space_addUses start uses).trans space
  generalize complete : "crate" :: names = full at spells ⊢
  have whole : ∀ segment ∈ full, ':' ∉ segment.toList := by
    rw [← complete, List.forall_mem_cons]
    exact ⟨by decide, fun segment member => (plain segment member).whole⟩
  cases spells with
  | rooted rooted =>
      have split : segments (start.addUses uses).space = "crate" :: inside := by
        rw [space_addUses, segments_space space inside_plain]
      exact iff_of_true (resolvePath_of_rooted split rooted) (rooted.not_beginsLost _)
  | @inside first rest unbound here apart =>
      have firstPlain : Plain first := by
        apply plain
        rw [(List.cons.inj complete).2]
        simp
      exact iff_of_true (resolvePath_of_inside same firstPlain unbound here apart)
        (not_beginsLost_of_unbound unbound rest)
  | @imported first rest target leaf item firstPlain bound flat denotes apart =>
      have wholeTarget : ∀ segment ∈ target, ':' ∉ segment.toList :=
        fun segment member => whole segment (List.mem_append_left rest member)
      rw [beginsLost_cons_iff firstPlain bound]
      exact resolvePath_imported_iff space inside_plain firstPlain bound flat denotes wholeTarget
        apart

end Whole

/-- `use tax::{self, rates::Vat as Levy};` -/
def taxTree : UseTree :=
  .path "tax" (.group [.name "self", .path "rates" (.rename "Vat" "Levy")])

theorem resolvePath_spellings_levy :
    Spells ["crate::billing::tax"] ["billing"] ((Scope.of "crate::billing").addUses [taxTree])
        ([taxTree].flatMap UseTree.leaves) ["Levy", "of"]
        ["crate", "billing", "tax", "rates", "Vat", "of"] ∧
      resolvePath ["crate::billing::tax"] ((Scope.of "crate::billing").addUses [taxTree])
        ["Levy", "of"] = joinSegments ["crate", "billing", "tax", "rates", "Vat", "of"] := by
  have names : ∀ segment ∈ ["billing", "tax", "rates", "Vat", "of"], Plain segment := by decide
  have plain : Plain "Levy" := by decide
  have bound : binder? ([taxTree].flatMap UseTree.leaves) "Levy" =
      some ⟨["tax", "rates"], "Vat", some "Levy"⟩ := by decide
  have flat : UseLeaf.flat? ⟨["tax", "rates"], "Vat", some "Levy"⟩ =
      some ⟨["tax", "rates"], "Vat", "Levy"⟩ := rfl
  have denotes : Denotes ["crate::billing::tax"] ["billing"] ["tax", "rates", "Vat"]
      ["crate", "billing", "tax", "rates", "Vat"] :=
    .child (by decide) (by decide)
  have spells : Spells ["crate::billing::tax"] ["billing"]
      ((Scope.of "crate::billing").addUses [taxTree]) ([taxTree].flatMap UseTree.leaves)
      ["Levy", "of"] ["crate", "billing", "tax", "rates", "Vat", "of"] :=
    .imported plain bound flat denotes (by decide)
  refine ⟨spells, (resolvePath_spellings rfl (by decide) names spells).mpr ?_⟩
  rw [beginsLost_cons_iff plain bound]
  decide

/-- A spelling through `self` under another name comes to a path that nobody meant. -/
theorem spelling_lost :
    Spells [] ["billing"] ((Scope.of "crate::billing").addUses [renamedMail])
        ([renamedMail].flatMap UseTree.leaves) ["post", "Mailer"] ["crate", "mail", "Mailer"] ∧
      resolvePath [] ((Scope.of "crate::billing").addUses [renamedMail]) ["post", "Mailer"] =
        "crate::mail::self::Mailer" := by
  have bound : binder? ([renamedMail].flatMap UseTree.leaves) "post" =
      some ⟨["crate", "mail"], "self", some "post"⟩ := by decide
  have flat : UseLeaf.flat? ⟨["crate", "mail"], "self", some "post"⟩ =
      some ⟨["crate"], "mail", "post"⟩ := rfl
  have denotes : Denotes [] ["billing"] ["crate", "mail"] ["crate", "mail"] :=
    .rooted (.crate ["mail"])
  exact ⟨.imported (by decide) bound flat denotes (by decide), by decide⟩

end Wiring.Source
