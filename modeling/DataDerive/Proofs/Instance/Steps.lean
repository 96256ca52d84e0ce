import DataDerive.Instance.Search
import DataDerive.Proofs.FreshNames

/-!
# Steps of a search

A step turns a supply of fresh variables into a value or a message, and a
supply.  A failed step keeps the variables that it took, so a search never takes
a variable twice.

`Ensures` describes the value together with the number of variables taken by
then, and the message apart from it.  It is closed under everything a search is
made of, so each function of the search needs one lemma about it.
-/

namespace DataDerive

open FreshNames

namespace Search

variable {α β : Type}

/-- How a step ends that is started at a supply. -/
def outcome (step : Search α) (supply : FreshNames) : Except Message α × FreshNames :=
  step.run.run supply

/-! ## Equations -/

@[simp]
theorem outcome_pure (value : α) (supply : FreshNames) :
    outcome (pure value) supply = (.ok value, supply) :=
  rfl

@[simp]
theorem outcome_throw (message : Message) (supply : FreshNames) :
    outcome (throw message : Search α) supply = (.error message, supply) :=
  rfl

theorem outcome_bind_of_ok
    {step : Search α}
    {next : α → Search β}
    {supply later : FreshNames}
    {value : α}
    (ends : outcome step supply = (.ok value, later)) :
    outcome (step >>= next) supply = outcome (next value) later := by
  rw [outcome] at ends
  rw [outcome, ExceptT.run_bind, StateT.run_bind, ends]
  rfl

theorem outcome_bind_of_error
    {step : Search α}
    {next : α → Search β}
    {supply later : FreshNames}
    {message : Message}
    (ends : outcome step supply = (.error message, later)) :
    outcome (step >>= next) supply = (.error message, later) := by
  rw [outcome] at ends
  rw [outcome, ExceptT.run_bind, StateT.run_bind, ends]
  rfl

theorem outcome_tryCatch_of_ok
    {step : Search α}
    {handler : Message → Search α}
    {supply later : FreshNames}
    {value : α}
    (ends : outcome step supply = (.ok value, later)) :
    outcome (tryCatch step handler) supply = (.ok value, later) := by
  rw [outcome] at ends
  rw [outcome, ExceptT.run_tryCatch, StateT.run_bind, ends]
  rfl

theorem outcome_tryCatch_of_error
    {step : Search α}
    {handler : Message → Search α}
    {supply later : FreshNames}
    {message : Message}
    (ends : outcome step supply = (.error message, later)) :
    outcome (tryCatch step handler) supply = outcome (handler message) later := by
  rw [outcome] at ends
  rw [outcome, ExceptT.run_tryCatch, StateT.run_bind, ends]
  rfl

theorem outcome_bind_eq_ok_iff
    {step : Search α}
    {next : α → Search β}
    {supply last : FreshNames}
    {value : β} :
    outcome (step >>= next) supply = (.ok value, last) ↔
      ∃ found left, outcome step supply = (.ok found, left) ∧
        outcome (next found) left = (.ok value, last) := by
  rcases ends : outcome step supply with ⟨fault | found, left⟩
  · simp [outcome_bind_of_error ends]
  · simp [outcome_bind_of_ok ends]

theorem outcome_bind_eq_error_iff
    {step : Search α}
    {next : α → Search β}
    {supply : FreshNames}
    {message : Message} :
    (outcome (step >>= next) supply).1 = .error message ↔
      (outcome step supply).1 = .error message ∨
        ∃ found left, outcome step supply = (.ok found, left) ∧
          (outcome (next found) left).1 = .error message := by
  rcases ends : outcome step supply with ⟨fault | found, left⟩
  · simp [outcome_bind_of_error ends]
  · simp [outcome_bind_of_ok ends]

theorem outcome_map_eq_ok_iff
    {function : α → β}
    {step : Search α}
    {supply last : FreshNames}
    {value : β} :
    outcome (function <$> step) supply = (.ok value, last) ↔
      ∃ found, outcome step supply = (.ok found, last) ∧ function found = value := by
  rw [map_eq_pure_bind, outcome_bind_eq_ok_iff]
  constructor
  · rintro ⟨found, left, ends, same⟩
    cases same
    exact ⟨found, ends, rfl⟩
  · rintro ⟨found, ends, rfl⟩
    exact ⟨found, last, ends, rfl⟩

theorem outcome_map_eq_error_iff
    {function : α → β}
    {step : Search α}
    {supply : FreshNames}
    {message : Message} :
    (outcome (function <$> step) supply).1 = .error message ↔
      (outcome step supply).1 = .error message := by
  rw [map_eq_pure_bind, outcome_bind_eq_error_iff]
  constructor
  · rintro (fails | ⟨found, left, -, same⟩)
    · exact fails
    · cases same
  · exact Or.inl

/-! ## What a step ensures -/

/-- A result is a value that is as described beside the supply left, or such a message. -/
def Described
    (value : α → FreshNames → Prop)
    (message : Message → Prop) :
    Except Message α × FreshNames → Prop
  | (.ok found, left) => value found left
  | (.error fault, _) => message fault

/-- Started at a supply, a step takes no variable back and ends as described. -/
structure Ensures
    (step : Search α)
    (supply : FreshNames)
    (value : α → FreshNames → Prop)
    (message : Message → Prop) : Prop where
  grows : supply.taken ≤ (outcome step supply).2.taken
  described : Described value message (outcome step supply)

/-- A property of a value that a step may leave out. -/
def IfSome (holds : α → Prop) (result : Option α) (_ : FreshNames) : Prop :=
  ∀ found, result = some found → holds found

section Rules

variable {supply : FreshNames} {step : Search α} {next : α → Search β}
variable {value middle : α → FreshNames → Prop} {final : β → FreshNames → Prop}
variable {message : Message → Prop}

theorem ensures_pure {found : α} (holds : value found supply) :
    Ensures (pure found) supply value message :=
  ⟨Nat.le_refl _, holds⟩

theorem ensures_none {holds : α → Prop} :
    Ensures (pure none) supply (IfSome holds) message :=
  ensures_pure fun _ same => nomatch same

theorem ensures_throw {fault : Message} (holds : message fault) :
    Ensures (throw fault : Search α) supply value message :=
  ⟨Nat.le_refl _, holds⟩

theorem ensures_liftM
    {result : Except Message α}
    (holds : Described value message (result, supply)) :
    Ensures (liftM result : Search α) supply value message :=
  ⟨Nat.le_refl _, holds⟩

theorem Ensures.bind
    (first : Ensures step supply middle message)
    (rest : ∀ found left, supply.taken ≤ left.taken → middle found left →
      Ensures (next found) left final message) :
    Ensures (step >>= next) supply final message := by
  rcases first with ⟨grows, described⟩
  rcases ends : outcome step supply with ⟨fault | found, left⟩
  · rw [ends] at grows described
    constructor
    · rwa [outcome_bind_of_error ends]
    · rw [outcome_bind_of_error ends]
      exact described
  · rw [ends] at grows described
    have onward := rest found left grows described
    constructor
    · rw [outcome_bind_of_ok ends]
      exact Nat.le_trans grows onward.grows
    · rw [outcome_bind_of_ok ends]
      exact onward.described

theorem Ensures.map
    {function : α → β}
    (ensures : Ensures step supply (fun found left => final (function found) left) message) :
    Ensures (function <$> step) supply final message := by
  rw [map_eq_pure_bind]
  exact ensures.bind fun found left _ holds => ensures_pure holds

theorem Ensures.tryCatch
    {handler : Message → Search α}
    {caught : Message → Prop}
    (first : Ensures step supply value caught)
    (rest : ∀ fault left, supply.taken ≤ left.taken → caught fault →
      Ensures (handler fault) left value message) :
    Ensures (tryCatch step handler) supply value message := by
  rcases first with ⟨grows, described⟩
  rcases ends : outcome step supply with ⟨fault | found, left⟩
  · rw [ends] at grows described
    have onward := rest fault left grows described
    constructor
    · rw [outcome_tryCatch_of_error ends]
      exact Nat.le_trans grows onward.grows
    · rw [outcome_tryCatch_of_error ends]
      exact onward.described
  · rw [ends] at grows described
    constructor
    · rwa [outcome_tryCatch_of_ok ends]
    · rw [outcome_tryCatch_of_ok ends]
      exact described

theorem Ensures.mono
    {wider : α → FreshNames → Prop}
    {more : Message → Prop}
    (ensures : Ensures step supply value message)
    (widens : ∀ found left, supply.taken ≤ left.taken → value found left → wider found left)
    (weakens : ∀ fault, message fault → more fault) :
    Ensures step supply wider more := by
  rcases ensures with ⟨grows, described⟩
  refine ⟨grows, ?_⟩
  rcases ends : outcome step supply with ⟨fault | found, left⟩
  · rw [ends] at described
    exact weakens fault described
  · rw [ends] at grows described
    exact widens found left grows described

theorem Ensures.value_of_ok
    (ensures : Ensures step supply value message)
    {found : α}
    (ends : (outcome step supply).1 = .ok found) :
    value found (outcome step supply).2 := by
  have described := ensures.described
  rcases result : outcome step supply with ⟨fault | other, left⟩
  · rw [result] at ends
    cases ends
  · rw [result] at ends described
    cases ends
    exact described

theorem Ensures.message_of_error
    (ensures : Ensures step supply value message)
    {fault : Message}
    (ends : (outcome step supply).1 = .error fault) :
    message fault := by
  have described := ensures.described
  rcases result : outcome step supply with ⟨other | found, left⟩
  · rw [result] at ends described
    cases ends
    exact described
  · rw [result] at ends
    cases ends

end Rules

theorem ensures_renameApart
    (supply : FreshNames)
    (names : List String)
    {message : Message → Prop} :
    Ensures (SearchContext.renameApart names) supply
      (fun renamed left => ∃ variant, RenamesApart names supply left renamed variant)
      message where
  grows := taken_le_renameApart supply names
  described := renameApart_spec supply names

end Search

end DataDerive
