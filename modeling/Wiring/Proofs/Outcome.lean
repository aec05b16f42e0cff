import Mathlib.Data.List.Forall2

/-!
# Outcomes

Steps that may fail, one after the other and over lists: when they succeed, and what becomes of
their failure when it is reworded.
-/

set_option autoImplicit false

namespace Wiring.Outcome

variable {α β ε : Type}

theorem bind_eq_ok_iff {first : Except ε α} {next : α → Except ε β} {result : β} :
    (first >>= next) = .ok result ↔ ∃ value, first = .ok value ∧ next value = .ok result := by
  cases first <;> simp [bind, Except.bind]

theorem pure_eq_ok_iff {value result : α} :
    (pure value : Except ε α) = .ok result ↔ value = result := by
  simp [pure, Except.pure]

theorem map_eq_ok_iff {outcome : Except ε α} {result : α → β} {value : β} :
    outcome.map result = .ok value ↔ ∃ found, outcome = .ok found ∧ result found = value := by
  cases outcome <;> simp [Except.map]

theorem exists_of_isOk {outcome : Except ε α} (success : outcome.isOk = true) :
    ∃ result, outcome = .ok result := by
  cases outcome with
  | ok result => exact ⟨result, rfl⟩
  | error failure => cases success

theorem toOption_eq_some_iff {outcome : Except ε α} {value : α} :
    outcome.toOption = some value ↔ outcome = .ok value := by
  cases outcome <;> simp [Except.toOption]

theorem toOption_bind (first : Except ε α) (next : α → Except ε β) :
    (first >>= next).toOption = first.toOption.bind fun value => (next value).toOption := by
  cases first <;> rfl

theorem forall₂_of_mapM {step : α → Except ε β} {values : List α} {results : List β}
    (success : values.mapM step = .ok results) :
    List.Forall₂ (fun value result => step value = .ok result) values results := by
  induction values generalizing results with
  | nil =>
      rw [List.mapM_nil, pure_eq_ok_iff] at success
      subst success
      exact List.Forall₂.nil
  | cons value values ih =>
      simp only [List.mapM_cons, bind_eq_ok_iff, pure_eq_ok_iff] at success
      obtain ⟨result, first, later, rest, rfl⟩ := success
      exact List.Forall₂.cons first (ih rest)

/-! ## Reworded failures -/

section Reworded

variable (reword : ε → ε)

theorem mapError_bind (first : Except ε α) (next : α → Except ε β) :
    (first >>= next).mapError reword =
      first.mapError reword >>= fun value => (next value).mapError reword := by
  cases first <;> rfl

theorem mapError_map (outcome : Except ε α) (result : α → β) :
    (outcome.map result).mapError reword = (outcome.mapError reword).map result := by
  cases outcome <;> rfl

theorem mapError_pure (value : α) :
    (pure value : Except ε α).mapError reword = pure value :=
  rfl

theorem mapError_mapM (values : List α) (step : α → Except ε β) :
    (values.mapM step).mapError reword =
      values.mapM fun value => (step value).mapError reword := by
  induction values with
  | nil => rfl
  | cons value values ih =>
      simp only [List.mapM_cons, mapError_bind, mapError_pure, ih]

end Reworded

end Wiring.Outcome
