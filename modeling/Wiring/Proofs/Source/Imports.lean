import Mathlib.Data.List.Basic
import Mathlib.Data.List.TakeWhile
import Wiring.Proofs.Text.Segments
import Wiring.Source.Scope

/-!
# Grouped imports

A use item binds what flat items bind, one for each of its leaves from left to right, but for `self`
under another name: it keeps its segment, so the name is lost unless the path above consists of
`self` and `super` only.  See `addUse_leaves` and `renamed_self_kept`.
-/

set_option autoImplicit false

namespace Wiring.Source

open Wiring.Text

/-! ## Paths seen from a namespace -/

def isRelative (segment : String) : Bool :=
  segment == "self" || segment == "super"

/-- What a path stands for inside a namespace: `self` is the namespace, and each `super` in front is
the one around it, if there is one. -/
def seenFrom (inside path : List String) : List String :=
  let lead := path.takeWhile isRelative
  if lead.isEmpty then path
  else inside.take (max 1 (inside.length - lead.count "super")) ++ path.dropWhile isRelative

theorem seenFrom_of_not_isRelative (inside : List String) {first : String} {rest : List String}
    (plain : isRelative first = false) : seenFrom inside (first :: rest) = first :: rest := by
  simp [seenFrom, plain]

theorem seenFrom_of_isRelative (inside : List String) {lead : List String} (rest : List String)
    (nonempty : lead ≠ []) (relative : ∀ segment ∈ lead, isRelative segment = true)
    (ends : ∀ first ∈ rest.head?, isRelative first = false) :
    seenFrom inside (lead ++ rest) =
      inside.take (max 1 (inside.length - lead.count "super")) ++ rest := by
  have taken : (lead ++ rest).takeWhile isRelative = lead := by
    rw [List.takeWhile_append_of_pos relative]
    cases rest with
    | nil => simp
    | cons first rest => simp [ends first rfl]
  have dropped : (lead ++ rest).dropWhile isRelative = rest := by
    rw [List.dropWhile_append_of_pos relative]
    cases rest with
    | nil => rfl
    | cons first rest => simp [ends first rfl]
  simp [seenFrom, taken, dropped, nonempty]

theorem seenFrom_ne_nil {inside path : List String} (inside_nonempty : inside ≠ [])
    (path_nonempty : path ≠ []) : seenFrom inside path ≠ [] := by
  rw [seenFrom]
  split
  · exact path_nonempty
  · simp [inside_nonempty]

/-- What stands behind a segment that is a name stays behind it. -/
theorem seenFrom_append (inside : List String) {path : List String}
    (named : ∃ segment ∈ path, isRelative segment = false) (more : List String) :
    seenFrom inside (path ++ more) = seenFrom inside path ++ more := by
  obtain ⟨segment, member, plain⟩ := named
  have mixed : ¬∀ segment ∈ path, isRelative segment = true := by
    intro relative
    simp [relative segment member] at plain
  have behind : (path.dropWhile isRelative).isEmpty = false := by
    rw [Bool.eq_false_iff, ne_eq, List.isEmpty_iff, List.dropWhile_eq_nil_iff]
    exact mixed
  have shorter : (path.takeWhile isRelative).length ≠ path.length := by
    intro whole
    have all : path.takeWhile isRelative = path :=
      (List.takeWhile_prefix isRelative).eq_of_length whole
    exact mixed (List.takeWhile_eq_self_iff.mp all)
  rw [seenFrom, seenFrom, List.takeWhile_append, if_neg shorter, List.dropWhile_append, behind,
    if_neg Bool.false_ne_true]
  split
  · rfl
  · rw [List.append_assoc]

/-- `self` behind nothing but `self` and `super` changes nothing. -/
theorem seenFrom_concat_self (inside : List String) {path : List String} (nonempty : path ≠ [])
    (relative : ∀ segment ∈ path, isRelative segment = true) :
    seenFrom inside (path ++ ["self"]) = seenFrom inside path := by
  have longer : ∀ segment ∈ path ++ ["self"], isRelative segment = true := by
    rw [List.forall_mem_append]
    exact ⟨relative, by simp [isRelative]⟩
  have whole := seenFrom_of_isRelative inside []
    (List.append_ne_nil_of_left_ne_nil nonempty ["self"]) longer (by simp)
  have front := seenFrom_of_isRelative inside [] nonempty relative (by simp)
  rw [List.append_nil] at whole front
  rw [whole, front]
  simp

theorem ascend_eq {base : List String} (nonempty : base ≠ []) (path : List String) :
    Scope.ascend base path =
      base.take (max 1 (base.length - (path.takeWhile isRelative).count "super")) ++
        path.dropWhile isRelative := by
  have positive := List.length_pos_iff.mpr nonempty
  induction path generalizing base with
  | nil => simp [Scope.ascend, List.take_of_length_le (Nat.le_max_right _ _)]
  | cons name rest ih =>
      by_cases own : name = "self"
      · have relative : isRelative name = true := by simp [isRelative, own]
        rw [Scope.ascend, if_pos (by simp [own]), ih nonempty positive,
          List.takeWhile_cons_of_pos relative, List.dropWhile_cons_of_pos relative,
          List.count_cons_of_ne (by simp [own])]
      · by_cases parent : name = "super"
        · have relative : isRelative name = true := by simp [isRelative, parent]
          rw [Scope.ascend, if_neg (by simp [own]), if_pos (by simp [parent]),
            List.takeWhile_cons_of_pos relative, List.dropWhile_cons_of_pos relative, parent,
            List.count_cons_self]
          by_cases above : 1 < base.length
          · have shorter : base.dropLast.length = base.length - 1 := List.length_dropLast
            rw [if_pos above, ih (List.ne_nil_of_length_pos (by omega)) (by omega), shorter,
              List.dropLast_eq_take, List.take_take]
            congr 2
            omega
          · rw [if_neg above, ih nonempty positive]
            congr 2
            omega
        · have plain : isRelative name = false := by simp [isRelative, own, parent]
          rw [Scope.ascend, if_neg (by simp [own]), if_neg (by simp [parent])]
          simp [plain, List.take_of_length_le (Nat.le_max_right _ _)]

theorem absolute_eq (scope : Scope) (path : List String) :
    scope.absolute path = joinSegments (seenFrom (segments scope.space) path) := by
  cases path with
  | nil => rfl
  | cons first rest =>
      cases relative : isRelative first with
      | false =>
          rw [seenFrom_of_not_isRelative _ relative]
          simp only [isRelative] at relative
          simp [Scope.absolute, relative]
      | true =>
          have lead : ((first :: rest).takeWhile isRelative).isEmpty = false := by simp [relative]
          rw [seenFrom, lead, if_neg Bool.false_ne_true, ← ascend_eq (segments_ne_nil _)]
          simp only [isRelative] at relative
          simp [Scope.absolute, relative]

/-! ## Bindings -/

theorem import?_bindName (scope : Scope) (name path asked : String) :
    (scope.bindName name path).import? asked =
      if asked = name then some path else scope.import? asked := by
  rw [Scope.import?, Scope.bindName, List.find?_append]
  by_cases same : asked = name
  · have gone : (scope.imports.filter (·.1 != name)).find? (·.1 == asked) = none := by
      rw [List.find?_eq_none]
      intro entry member
      simpa [same] using (List.mem_filter.mp member).2
    rw [if_pos same, gone]
    simp [same]
  · have kept : (scope.imports.filter (·.1 != name)).find? (·.1 == asked) =
        scope.imports.find? (·.1 == asked) := by
      rw [List.find?_filter]
      congr 1
      funext entry
      by_cases found : entry.1 = asked <;> simp [found, same]
    have other : [(name, path)].find? (·.1 == asked) = none := by
      simp [Ne.symm same]
    rw [if_neg same, kept, other, Option.or_none, ← Scope.import?]

/-! ## Flat items -/

/-- A flat use item: `use above::name as binding`. -/
structure FlatUse where
  above : List String
  name : String
  binding : String
deriving DecidableEq, Repr

namespace FlatUse

def path (item : FlatUse) : List String :=
  item.above ++ [item.name]

def tree (item : FlatUse) : UseTree :=
  item.above.foldr .path (.rename item.name item.binding)

/-- What an item binds its name to in a scope. -/
def target (item : FlatUse) (space : String) : String :=
  joinSegments (seenFrom (segments space) item.path)

end FlatUse

namespace Scope

theorem collect_foldr (before above : List String) (tree : UseTree) (scope : Scope) :
    collect before (above.foldr .path tree) scope = collect (before ++ above) tree scope := by
  induction above generalizing before with
  | nil => rw [List.foldr_nil, List.append_nil]
  | cons name rest ih =>
      rw [List.foldr_cons, collect, ih, List.append_assoc, List.singleton_append]

theorem addUse_flat (scope : Scope) (item : FlatUse) :
    scope.addUse item.tree = scope.bindName item.binding (item.target scope.space) := by
  rw [addUse, FlatUse.tree, collect_foldr, List.nil_append, collect, absolute_eq]
  rfl

def addUses (scope : Scope) (trees : List UseTree) : Scope :=
  trees.foldl addUse scope

end Scope

/-! ## Leaves -/

/-- A leaf of a use tree: the path above it, its name, and the name that it is given. -/
structure UseLeaf where
  above : List String
  name : String
  binding : Option String
deriving DecidableEq, Repr

namespace UseTree

mutual

/-- The leaves of a tree below a path that are no globs. -/
def leavesBelow (above : List String) : UseTree → List UseLeaf
  | .path segment tree => leavesBelow (above ++ [segment]) tree
  | .name segment => [⟨above, segment, none⟩]
  | .rename segment binding => [⟨above, segment, some binding⟩]
  | .group trees => leavesBelowAll above trees
  | .glob => []

def leavesBelowAll (above : List String) : List UseTree → List UseLeaf
  | [] => []
  | tree :: rest => leavesBelow above tree ++ leavesBelowAll above rest

end

def leaves (tree : UseTree) : List UseLeaf :=
  tree.leavesBelow []

end UseTree

namespace UseLeaf

/-- The flat item that a leaf is to mean: `self` is the path above it. -/
def flat? (leaf : UseLeaf) : Option FlatUse :=
  if leaf.name = "self" then
    match leaf.above.getLast? with
    | some last => some ⟨leaf.above.dropLast, last, leaf.binding.getD last⟩
    | none => leaf.binding.map fun binding => ⟨[], "self", binding⟩
  else some ⟨leaf.above, leaf.name, leaf.binding.getD leaf.name⟩

/-- The flat item that a leaf is taken for. Under another name, `self` is a name like others. -/
def taken? (leaf : UseLeaf) : Option FlatUse :=
  match leaf.binding with
  | some binding => some ⟨leaf.above, leaf.name, binding⟩
  | none => leaf.flat?

/-- A leaf whose name is lost: `self` under another name, below more than `self` and `super`. -/
def IsLost (leaf : UseLeaf) : Prop :=
  leaf.name = "self" ∧ leaf.binding.isSome = true ∧
    ∃ segment ∈ leaf.above, isRelative segment = false

instance decidableIsLost : DecidablePred IsLost :=
  fun _ => inferInstanceAs (Decidable (_ ∧ _ ∧ ∃ _ ∈ _, _))

end UseLeaf

namespace Scope

mutual

theorem collect_eq_addUses (above : List String) (tree : UseTree) (scope : Scope) :
    collect above tree scope =
      scope.addUses (((tree.leavesBelow above).filterMap UseLeaf.taken?).map FlatUse.tree) := by
  match tree with
  | .path segment tree =>
      rw [collect, UseTree.leavesBelow]
      exact collect_eq_addUses (above ++ [segment]) tree scope
  | .name segment =>
      rw [collect, UseTree.leavesBelow]
      by_cases own : segment = "self"
      · cases last : above.getLast? with
        | none => simp [own, last, UseLeaf.taken?, UseLeaf.flat?, addUses]
        | some final =>
            have whole : above.dropLast ++ [final] = above :=
              List.dropLast_append_getLast? final last
            simp [own, last, UseLeaf.taken?, UseLeaf.flat?, addUses, addUse_flat, FlatUse.target,
              FlatUse.path, whole, absolute_eq]
      · simp [own, UseLeaf.taken?, UseLeaf.flat?, addUses, addUse_flat, FlatUse.target,
          FlatUse.path, absolute_eq]
  | .rename segment binding =>
      rw [collect, UseTree.leavesBelow]
      simp [UseLeaf.taken?, addUses, addUse_flat, FlatUse.target, FlatUse.path, absolute_eq]
  | .group trees =>
      rw [collect, UseTree.leavesBelow]
      exact collectAll_eq_addUses above trees scope
  | .glob =>
      rw [collect, UseTree.leavesBelow]
      rfl

theorem collectAll_eq_addUses (above : List String) (trees : List UseTree) (scope : Scope) :
    collectAll above trees scope =
      scope.addUses (((UseTree.leavesBelowAll above trees).filterMap UseLeaf.taken?).map
        FlatUse.tree) := by
  match trees with
  | [] =>
      rw [collectAll, UseTree.leavesBelowAll]
      rfl
  | tree :: rest =>
      rw [collectAll, collect_eq_addUses above tree scope, collectAll_eq_addUses above rest,
        UseTree.leavesBelowAll, List.filterMap_append, List.map_append, addUses, addUses, addUses,
        List.foldl_append]

end

theorem addUses_leaves (scope : Scope) (trees : List UseTree) :
    scope.addUses trees =
      scope.addUses (((trees.flatMap UseTree.leaves).filterMap UseLeaf.taken?).map
        FlatUse.tree) := by
  induction trees generalizing scope with
  | nil => rfl
  | cons tree rest ih =>
      have first : scope.addUses (tree :: rest) = (scope.addUse tree).addUses rest := rfl
      rw [first, ih, addUse, collect_eq_addUses, ← UseTree.leaves, List.flatMap_cons,
        List.filterMap_append, List.map_append, addUses, addUses, addUses, List.foldl_append]

end Scope

/-! ## What a name is bound to -/

def UseLeaf.bound? (leaf : UseLeaf) : Option String :=
  leaf.flat?.map (·.binding)

/-- The leaf that a name is bound by: the last one of those that bind it. -/
def binder? (leaves : List UseLeaf) (name : String) : Option UseLeaf :=
  leaves.reverse.find? fun leaf => leaf.bound? == some name

theorem UseLeaf.bound?_taken (leaf : UseLeaf) : leaf.taken?.map (·.binding) = leaf.bound? := by
  obtain ⟨above, name, binding⟩ := leaf
  cases binding with
  | none => rfl
  | some binding =>
      by_cases own : name = "self"
      · cases last : above.getLast? <;> simp [taken?, bound?, flat?, own, last]
      · simp [taken?, bound?, flat?, own]

theorem import?_addUses_flat (scope : Scope) (items : List FlatUse) (name : String) :
    (scope.addUses (items.map FlatUse.tree)).import? name =
      ((items.reverse.find? (·.binding == name)).map (·.target scope.space)).or
        (scope.import? name) := by
  induction items generalizing scope with
  | nil => rfl
  | cons item rest ih =>
      have first : scope.addUses ((item :: rest).map FlatUse.tree) =
          (scope.bindName item.binding (item.target scope.space)).addUses
            (rest.map FlatUse.tree) := by
        rw [← Scope.addUse_flat]
        rfl
      have space : (scope.bindName item.binding (item.target scope.space)).space = scope.space :=
        rfl
      rw [first, ih, space, import?_bindName, List.reverse_cons, List.find?_append]
      cases later : rest.reverse.find? (·.binding == name) with
      | some final => rfl
      | none =>
          by_cases here : name = item.binding
          · simp [here]
          · simp [here, Ne.symm here]

/-- However leaves are read, a name is bound by the last leaf that binds it. -/
theorem import?_addUses_leaves {read : UseLeaf → Option FlatUse}
    (reads : ∀ leaf, (read leaf).map (·.binding) = leaf.bound?) (scope : Scope)
    (leaves : List UseLeaf) (name : String) :
    (scope.addUses ((leaves.filterMap read).map FlatUse.tree)).import? name =
      (((binder? leaves name).bind read).map (·.target scope.space)).or (scope.import? name) := by
  have found : (leaves.filterMap read).reverse.find? (·.binding == name) =
      (binder? leaves name).bind read := by
    rw [← List.filterMap_reverse, List.find?_filterMap, binder?]
    congr 2
    funext leaf
    rw [← reads]
    cases read leaf <;> rfl
  rw [import?_addUses_flat, found]

/-- A leaf is taken for what it means unless its name is lost. -/
theorem UseLeaf.taken_of_flat {leaf : UseLeaf} {item : FlatUse} (flat : leaf.flat? = some item) :
    ∃ taken, leaf.taken? = some taken ∧
      (leaf.IsLost → taken.path = item.path ++ ["self"] ∧
        ∃ segment ∈ item.path, isRelative segment = false) ∧
      (¬leaf.IsLost → ∀ inside, seenFrom inside taken.path = seenFrom inside item.path) := by
  obtain ⟨above, name, binding⟩ := leaf
  cases binding with
  | none => exact ⟨item, flat, by simp [IsLost], fun _ _ => rfl⟩
  | some binding =>
      refine ⟨⟨above, name, binding⟩, rfl, ?_⟩
      by_cases own : name = "self"
      · cases last : above.getLast? with
        | none =>
            have empty : above = [] := List.getLast?_eq_none_iff.mp last
            obtain rfl : item = ⟨[], "self", binding⟩ := by
              simpa [flat?, own, last] using flat.symm
            exact ⟨by simp [IsLost, empty], fun _ _ => by rw [empty, own]⟩
        | some final =>
            have whole : above.dropLast ++ [final] = above :=
              List.dropLast_append_getLast? final last
            have path : item.path = above := by
              obtain rfl : item = ⟨above.dropLast, final, binding⟩ := by
                simpa [flat?, own, last] using flat.symm
              exact whole
            have nonempty : above ≠ [] := by
              rw [← whole]
              simp
            constructor
            · rintro ⟨-, -, named⟩
              rw [path]
              exact ⟨by rw [FlatUse.path, own], named⟩
            · intro kept inside
              have relative : ∀ segment ∈ above, isRelative segment = true := by
                simpa [IsLost, own] using kept
              rw [path, FlatUse.path, own]
              exact seenFrom_concat_self inside nonempty relative
      · obtain rfl : item = ⟨above, name, binding⟩ := by
          simpa [flat?, own] using flat.symm
        exact ⟨by simp [IsLost, own], fun _ _ => rfl⟩

theorem UseLeaf.target_taken_iff {leaf : UseLeaf} {item taken : FlatUse}
    (flat : leaf.flat? = some item) (read : leaf.taken? = some taken) (space : String) :
    taken.target space = item.target space ↔ ¬leaf.IsLost := by
  obtain ⟨found, foundRead, lost, kept⟩ := taken_of_flat flat
  obtain rfl := Option.some.inj (read.symm.trans foundRead)
  constructor
  · intro same isLost
    obtain ⟨path, named⟩ := lost isLost
    have longer : seenFrom (segments space) taken.path =
        seenFrom (segments space) item.path ++ ["self"] := by
      rw [path, seenFrom_append _ named]
    have nonempty : seenFrom (segments space) item.path ≠ [] :=
      seenFrom_ne_nil (segments_ne_nil space) (by simp [FlatUse.path])
    rw [FlatUse.target, FlatUse.target, longer] at same
    apply joinSegments_ne_of_inserted nonempty "self" []
    rw [same, List.append_nil]
  · intro isKept
    rw [FlatUse.target, FlatUse.target, kept isKept]

/-- Adding a tree is adding flat items, one for each leaf from left to right, where `self` under
another name is taken for a name below the path. So a name is bound to what the leaf that binds it
means exactly if that leaf is not lost. A flat item binds its name to its path as seen from the
namespace of the scope, and nothing else. -/
theorem addUse_leaves (scope : Scope) (tree : UseTree) :
    scope.addUse tree =
        scope.addUses ((tree.leaves.filterMap UseLeaf.taken?).map FlatUse.tree) ∧
      (∀ name,
        (scope.addUse tree).import? name =
            (scope.addUses ((tree.leaves.filterMap UseLeaf.flat?).map FlatUse.tree)).import? name ↔
          ∀ leaf, binder? tree.leaves name = some leaf → ¬leaf.IsLost) ∧
      ∀ (item : FlatUse) (name : String),
        (scope.addUse item.tree).import? name =
          if name = item.binding then some (item.target scope.space)
          else scope.import? name := by
  have taken : scope.addUse tree =
      scope.addUses ((tree.leaves.filterMap UseLeaf.taken?).map FlatUse.tree) :=
    Scope.collect_eq_addUses [] tree scope
  refine ⟨taken, ?_, ?_⟩
  · intro name
    rw [taken, import?_addUses_leaves UseLeaf.bound?_taken]
    rw [import?_addUses_leaves (fun _ => rfl)]
    cases binder : binder? tree.leaves name with
    | none => simp
    | some leaf =>
        have binds : leaf.bound? = some name := by
          simpa using List.find?_some binder
        obtain ⟨item, flat, -⟩ := Option.map_eq_some_iff.mp binds
        obtain ⟨read, readTaken, -⟩ := UseLeaf.taken_of_flat flat
        have same := UseLeaf.target_taken_iff flat readTaken scope.space
        simp [flat, readTaken, same]
  · intro item name
    rw [Scope.addUse_flat, import?_bindName]

def mailTree : UseTree :=
  .group [
    .path "crate" (.path "mail" (.group [
      .name "Mailer", .path "smtp" (.rename "Smtp" "Transport"), .name "self", .glob])),
    .path "super" (.group [.rename "self" "root", .name "Mailer"])]

theorem addUse_leaves_mail :
    binder? mailTree.leaves "root" = some ⟨["super"], "self", some "root"⟩ ∧
      ¬UseLeaf.IsLost ⟨["super"], "self", some "root"⟩ ∧
      ((Scope.of "crate::billing").addUse mailTree).import? "root" =
        ((Scope.of "crate::billing").addUses
          ((mailTree.leaves.filterMap UseLeaf.flat?).map FlatUse.tree)).import? "root" := by
  have bound : binder? mailTree.leaves "root" = some ⟨["super"], "self", some "root"⟩ := by decide
  have kept : ¬UseLeaf.IsLost ⟨["super"], "self", some "root"⟩ := by decide
  refine ⟨bound, kept, ((addUse_leaves (.of "crate::billing") mailTree).2.1 "root").mpr ?_⟩
  intro leaf found
  obtain rfl := Option.some.inj (bound.symm.trans found)
  exact kept

-- Of two leaves that bind one name, the later one counts.
example :
    ((Scope.of "crate::billing").addUse mailTree).import? "Mailer" = some "crate::Mailer" := by
  decide

/-- `crate::mail::{self as post}`. -/
def renamedMail : UseTree :=
  .path "crate" (.path "mail" (.group [.rename "self" "post"]))

theorem renamed_self_kept :
    ((Scope.of "crate::billing").addUse renamedMail).import? "post" = some "crate::mail::self" ∧
      ((Scope.of "crate::billing").addUses
        ((renamedMail.leaves.filterMap UseLeaf.flat?).map FlatUse.tree)).import? "post" =
          some "crate::mail" := by
  constructor
  · decide
  · decide

end Wiring.Source
