import DataDerive.Diagnostic.Basic
import DataDerive.Proofs.Fallible

/-!
# Outcomes of phases

A phase ends with a value or with the message that ended it.  One that is made
of steps has a value exactly if every step has one, and otherwise the message of
a step.  What a message says depends on the names and places in the program; its
code says what went wrong, and `coded` keeps only that.
-/

namespace DataDerive.Derived

variable {α β : Type}

/-! ## Values -/

export Except (bind_eq_ok_iff bind_eq_error_iff check_bind_eq_ok_iff mapM_eq_ok_iff
  exists_of_mem_mapM)

theorem exists_getElem?_of_mapM
    {step : α → Derived β}
    {members : List α}
    {values : List β}
    (ends : members.mapM step = .ok values)
    {index : Nat}
    {member : α}
    (listed : members[index]? = some member) :
    ∃ value, values[index]? = some value ∧ step member = .ok value := by
  have pairs := mapM_eq_ok_iff.mp ends
  clear ends
  induction pairs generalizing index with
  | nil => cases listed
  | @cons first value _ _ one _ ih =>
      cases index with
      | zero =>
          cases listed
          exact ⟨value, rfl, one⟩
      | succ index => exact ih listed

/-- Steps that find members of an image in turn find a list with that image. -/
theorem exists_mapM_of_forall₂
    {γ : Type}
    {step : α → Derived β}
    {image : β → γ}
    {members : List α}
    {values : List β}
    (pairs : List.Forall₂
      (fun member value => ∃ found, step member = .ok found ∧ image found = image value)
      members values) :
    ∃ founds, members.mapM step = .ok founds ∧ founds.map image = values.map image := by
  induction pairs with
  | nil => exact ⟨[], rfl, rfl⟩
  | cons first _ ih =>
      rcases first with ⟨found, one, same⟩
      rcases ih with ⟨founds, onward, sames⟩
      refine ⟨found :: founds, mapM_eq_ok_iff.mpr (.cons one (mapM_eq_ok_iff.mp onward)), ?_⟩
      rw [List.map_cons, List.map_cons, same, sames]

/-! ## Messages -/

/-- An outcome has a value or an allowed message. -/
def FailsOnlyWith (allowed : Message → Prop) (step : Derived α) : Prop :=
  ∀ message, step = .error message → allowed message

section Messages

variable {allowed : Message → Prop}

theorem failsOnlyWith_ok (value : α) : FailsOnlyWith allowed (.ok value : Derived α) :=
  fun _ fails => nomatch fails

theorem failsOnlyWith_error {message : Message} (holds : allowed message) :
    FailsOnlyWith allowed (.error message : Derived α) := by
  rintro _ ⟨⟩
  exact holds

theorem FailsOnlyWith.bind
    {step : Derived α}
    {next : α → Derived β}
    (first : FailsOnlyWith allowed step)
    (rest : ∀ found, FailsOnlyWith allowed (next found)) :
    FailsOnlyWith allowed (step >>= next) := by
  cases step with
  | error message => exact failsOnlyWith_error (first message rfl)
  | ok found => exact rest found

theorem failsOnlyWith_mapM
    {step : α → Derived β}
    (one : ∀ member, FailsOnlyWith allowed (step member))
    (members : List α) :
    FailsOnlyWith allowed (members.mapM step) := by
  induction members with
  | nil => exact failsOnlyWith_ok []
  | cons member rest ih =>
      rw [List.mapM_cons]
      exact (one member).bind fun _ => ih.bind fun _ => failsOnlyWith_ok _

/-- An outcome has a value or a message with one of some codes. -/
def FailsWithin (codes : List Code) (step : Derived α) : Prop :=
  FailsOnlyWith (fun message => message.code ∈ codes) step

theorem FailsWithin.mono
    {codes others : List Code}
    {step : Derived α}
    (within : FailsWithin codes step)
    (grows : codes ⊆ others) :
    FailsWithin others step :=
  fun message fails => grows (within message fails)

end Messages

/-! ## Codes -/

/-- An outcome of which only the code of the message is kept. -/
def coded (step : Derived α) : Except Code α :=
  step.mapError Message.code

@[simp]
theorem coded_ok (value : α) : coded (.ok value) = .ok value :=
  rfl

@[simp]
theorem coded_error (message : Message) :
    coded (.error message : Derived α) = .error message.code :=
  rfl

@[simp]
theorem coded_eq_ok_iff {step : Derived α} {value : α} :
    coded step = .ok value ↔ step = .ok value := by
  cases step <;> simp

theorem coded_bind (step : Derived α) (next : α → Derived β) :
    coded (step >>= next) = coded step >>= fun found => coded (next found) := by
  cases step <;> rfl

/-- A check of every member of a list fails with the code that its failures have. -/
theorem coded_forM
    {check : α → Derived Unit}
    {code : Code}
    {passes : α → Prop}
    [DecidablePred passes]
    (one : ∀ member, coded (check member) = if passes member then .ok () else .error code)
    (members : List α) :
    coded (members.forM check) =
      if ∀ member ∈ members, passes member then .ok () else .error code := by
  induction members with
  | nil => rfl
  | cons member rest ih =>
      change coded (check member >>= fun _ => rest.forM check) = _
      rw [coded_bind, one, ih]
      by_cases good : passes member
      · simp only [List.forall_mem_cons, good, true_and, if_true]
        rfl
      · simp only [List.forall_mem_cons, good, false_and, if_false]
        rfl

theorem coded_mapM_cons (step : α → Derived β) (member : α) (rest : List α) :
    coded ((member :: rest).mapM step) =
      coded (step member) >>= fun value => (coded (rest.mapM step)).map (value :: ·) := by
  rw [List.mapM_cons, coded_bind]
  congr 1
  funext value
  rw [coded_bind]
  cases coded (rest.mapM step) <;> rfl

/--
If changing the member at a position changes what a step makes of it in a
certain way, the list of what is made of all members is changed in that way at
that position.
-/
theorem coded_mapM_modify
    {step : α → Derived β}
    {change : α → α}
    {effect : β → β}
    {members : List α}
    {position : Nat}
    {member : α}
    (listed : members[position]? = some member)
    (one : coded (step (change member)) = (coded (step member)).map effect) :
    coded ((members.modify position change).mapM step) =
      (coded (members.mapM step)).map fun values => values.modify position effect := by
  induction members generalizing position with
  | nil => cases listed
  | cons first rest ih =>
      cases position with
      | zero =>
          cases listed
          rw [List.modify_zero_cons, coded_mapM_cons, coded_mapM_cons, one]
          cases coded (step member) with
          | error code => rfl
          | ok value => cases coded (rest.mapM step) <;> rfl
      | succ position =>
          rw [List.modify_succ_cons, coded_mapM_cons, coded_mapM_cons, ih listed]
          cases coded (step first) with
          | error code => rfl
          | ok value => cases coded (rest.mapM step) <;> rfl

end DataDerive.Derived
