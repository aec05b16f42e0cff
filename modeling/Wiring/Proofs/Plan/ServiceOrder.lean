import Mathlib.Data.List.Sort
import Mathlib.Data.Prod.Lex
import Mathlib.Data.String.Basic
import Wiring.Plan.Resolution

/-!
# The order of services

Services are sorted by the names and the namespaces of their implementations.  The sort is stable,
so it does not matter whether services are left out before or after it; and where no two services
share a name and a namespace, it does not matter either in which order they are found.
-/

set_option autoImplicit false

namespace Wiring.Plan

def sortKey (service : ServiceDescriptor) : String ×ₗ String :=
  toLex (service.implementation.name, service.implementation.space)

theorem precedes_iff (left right : ServiceDescriptor) :
    precedes left right = true ↔ sortKey left ≤ sortKey right := by
  simp [precedes, sortKey, Prod.Lex.toLex_le_toLex]

theorem precedes_trans (first second third : ServiceDescriptor)
    (left : precedes first second = true) (right : precedes second third = true) :
    precedes first third = true := by
  rw [precedes_iff] at left right ⊢
  exact le_trans left right

theorem precedes_total (left right : ServiceDescriptor) :
    (precedes left right || precedes right left) = true := by
  rw [Bool.or_eq_true, precedes_iff, precedes_iff]
  exact le_total _ _

theorem identity_eq_of_precedes {left right : ServiceDescriptor}
    (forth : precedes left right = true) (back : precedes right left = true) :
    left.implementation.identity = right.implementation.identity := by
  rw [precedes_iff] at forth back
  have same : sortKey left = sortKey right := le_antisymm forth back
  have parts := Prod.mk.inj (toLex.injective same)
  exact Prod.ext parts.2 parts.1

/-! ## A stable sort -/

section Stable

variable {α : Type} {le : α → α → Bool}
  (trans : ∀ first second third, le first second = true → le second third = true →
    le first third = true)
  (total : ∀ left right, (le left right || le right left) = true)

include trans total

/-- Sorting one element more puts it in front of the first one that it is not greater than. -/
theorem mergeSort_cons_eq (head : α) (rest : List α) :
    (head :: rest).mergeSort le =
      (rest.mergeSort le).filter (fun other => !le head other) ++
        head :: (rest.mergeSort le).filter fun other => le head other := by
  obtain ⟨front, back, sorted, parts, less⟩ := List.mergeSort_cons trans total head rest
  have ordered := List.pairwise_mergeSort trans total (head :: rest)
  rw [sorted, List.pairwise_append, List.pairwise_cons] at ordered
  have after : ∀ other ∈ back, le head other = true := ordered.2.1.1
  have before : ∀ other ∈ front, le head other = false := by
    intro other member
    simpa using less other member
  have frontOnly : (front ++ back).filter (fun other => !le head other) = front := by
    rw [List.filter_append, List.filter_eq_self.mpr (by simpa using before),
      List.filter_eq_nil_iff.mpr (by simpa using after), List.append_nil]
  have backOnly : (front ++ back).filter (fun other => le head other) = back := by
    rw [List.filter_append, List.filter_eq_nil_iff.mpr (by simpa using before),
      List.filter_eq_self.mpr after, List.nil_append]
  rw [sorted, parts, frontOnly, backOnly]

theorem filter_mergeSort (kept : α → Bool) (values : List α) :
    (values.mergeSort le).filter kept = (values.filter kept).mergeSort le := by
  induction values with
  | nil => simp
  | cons head rest ih =>
      cases keeps : kept head with
      | true =>
          rw [mergeSort_cons_eq trans total, List.filter_append, List.filter_cons_of_pos keeps,
            List.filter_cons_of_pos keeps, mergeSort_cons_eq trans total, ← ih]
          simp only [List.filter_filter, Bool.and_comm]
      | false =>
          have dropped : ¬kept head = true := by simp [keeps]
          obtain ⟨front, back, sorted, parts, -⟩ := List.mergeSort_cons trans total head rest
          rw [sorted, List.filter_append, List.filter_cons_of_neg dropped,
            List.filter_cons_of_neg dropped, ← List.filter_append, ← parts, ih]

end Stable

/-! ## Sorted services -/

theorem pairwise_mergeSort_precedes (services : List ServiceDescriptor) :
    (services.mergeSort precedes).Pairwise fun earlier later => precedes earlier later = true :=
  List.pairwise_mergeSort precedes_trans precedes_total services

/-- Services of distinct names and namespaces are sorted alike in whatever order they are found. -/
theorem mergeSort_precedes_eq_of_perm {found reordered : List ServiceDescriptor}
    (perm : found.Perm reordered)
    (apart : (found.map fun service => service.implementation.identity).Nodup) :
    found.mergeSort precedes = reordered.mergeSort precedes := by
  have sortedPerm : (found.mergeSort precedes).Perm (reordered.mergeSort precedes) :=
    ((List.mergeSort_perm found precedes).trans perm).trans
      (List.mergeSort_perm reordered precedes).symm
  refine sortedPerm.eq_of_pairwise ?_ (pairwise_mergeSort_precedes found)
    (pairwise_mergeSort_precedes reordered)
  intro left right leftMember rightMember forth back
  rw [List.mem_mergeSort] at leftMember rightMember
  exact List.inj_on_of_nodup_map apart leftMember (perm.mem_iff.mpr rightMember)
    (identity_eq_of_precedes forth back)

end Wiring.Plan
