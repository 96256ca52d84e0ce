import Mathlib.Data.List.Forall2

/-!
# Steps that may fail

A step ends with a value or with a fault.  One that is made of steps has a value
exactly if every step has one.
-/

namespace Except

variable {ε ε' α β : Type}

theorem bind_eq_ok_iff {step : Except ε α} {next : α → Except ε β} {value : β} :
    step >>= next = .ok value ↔ ∃ found, step = .ok found ∧ next found = .ok value := by
  cases step with
  | error fault =>
      change Except.error fault = Except.ok value ↔ _
      simp
  | ok found =>
      change next found = .ok value ↔ _
      simp

theorem bind_eq_error_iff {step : Except ε α} {next : α → Except ε β} {fault : ε} :
    step >>= next = .error fault ↔
      step = .error fault ∨ ∃ found, step = .ok found ∧ next found = .error fault := by
  cases step with
  | error other =>
      change Except.error other = Except.error fault ↔ _
      simp
  | ok found =>
      change next found = .error fault ↔ _
      simp

/-- What comes after a check has a value only if the check passes. -/
theorem check_bind_eq_ok_iff {check : Except ε Unit} {next : Except ε β} {value : β} :
    (check >>= fun _ => next) = .ok value ↔ check = .ok () ∧ next = .ok value := by
  rw [bind_eq_ok_iff]
  constructor
  · rintro ⟨⟨⟩, passes, ends⟩
    exact ⟨passes, ends⟩
  · rintro ⟨passes, ends⟩
    exact ⟨(), passes, ends⟩

/-- A step for every member of a list has a value exactly if all members have one. -/
theorem mapM_eq_ok_iff {step : α → Except ε β} {members : List α} {values : List β} :
    members.mapM step = .ok values ↔
      List.Forall₂ (fun member value => step member = .ok value) members values := by
  induction members generalizing values with
  | nil =>
      rw [List.mapM_nil, List.forall₂_nil_left_iff]
      change Except.ok [] = Except.ok values ↔ _
      rw [Except.ok.injEq, eq_comm]
  | cons member rest ih =>
      rw [List.mapM_cons, bind_eq_ok_iff, List.forall₂_cons_left_iff]
      simp only [bind_eq_ok_iff, ih]
      constructor
      · rintro ⟨value, first, others, onward, same⟩
        cases same
        exact ⟨value, others, first, onward, rfl⟩
      · rintro ⟨value, others, first, onward, rfl⟩
        exact ⟨value, first, others, onward, rfl⟩

theorem exists_of_mem_mapM
    {step : α → Except ε β}
    {members : List α}
    {values : List β}
    (ends : members.mapM step = .ok values)
    {value : β}
    (listed : value ∈ values) :
    ∃ member ∈ members, step member = .ok value := by
  have pairs := mapM_eq_ok_iff.mp ends
  clear ends
  induction pairs with
  | nil => cases listed
  | @cons member _ members _ first _ ih =>
      rcases List.mem_cons.mp listed with rfl | later
      · exact ⟨member, List.mem_cons_self, first⟩
      · rcases ih later with ⟨other, among, ends⟩
        exact ⟨other, List.mem_cons_of_mem _ among, ends⟩

/-- What holds of every value that the step gives holds of all values. -/
theorem forall_of_mapM
    {step : α → Except ε β}
    {members : List α}
    {values : List β}
    {holds : β → Prop}
    (ends : members.mapM step = .ok values)
    (gives : ∀ member value, step member = .ok value → holds value) :
    ∀ value ∈ values, holds value := by
  intro value listed
  rcases exists_of_mem_mapM ends listed with ⟨member, -, found⟩
  exact gives member value found

/-- A check of every member of a list passes exactly if it passes for all members. -/
theorem forM_eq_ok_iff {check : α → Except ε Unit} {members : List α} :
    members.forM check = .ok () ↔ ∀ member ∈ members, check member = .ok () := by
  induction members with
  | nil => exact iff_of_true rfl (List.forall_mem_nil _)
  | cons member rest ih =>
      rw [List.forall_mem_cons, ← ih]
      exact check_bind_eq_ok_iff

theorem mapError_eq_ok_iff {fault : ε → ε'} {step : Except ε α} {value : α} :
    step.mapError fault = .ok value ↔ step = .ok value := by
  cases step <;> simp [Except.mapError]

theorem toOption_eq_some_iff {step : Except ε α} {value : α} :
    step.toOption = some value ↔ step = .ok value := by
  cases step <;> simp [Except.toOption]

end Except
