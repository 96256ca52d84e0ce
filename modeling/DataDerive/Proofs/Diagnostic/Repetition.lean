import DataDerive.Proofs.Diagnostic.History

/-!
# Diagnostics that are added again

A queue that drops repetitions refuses the equal of a diagnostic that waits.  But
the limit is looked at first: once as many errors wait as may, an error that waits
is refused by the limit when it is added again, and counted as suppressed.  This
count is all that a repetition ever changes.  So adding diagnostics a second time
adds the number of errors among them to the count if the limit is reached by then,
and does nothing otherwise.
-/

namespace DataDerive.DiagnosticQueue

variable {queue : DiagnosticQueue} {diagnostic : Diagnostic}

/-- As many errors wait as may. -/
def isFull (queue : DiagnosticQueue) : Bool :=
  0 < queue.limits.errors && queue.limits.errors ≤ queue.errorCount

/-- The queue after a number of further errors was suppressed. -/
def suppress (queue : DiagnosticQueue) (count : Nat) : DiagnosticQueue :=
  { queue with suppressed := queue.suppressed + count }

theorem suppress_zero (queue : DiagnosticQueue) : queue.suppress 0 = queue :=
  rfl

theorem suppress_suppress (queue : DiagnosticQueue) (first second : Nat) :
    (queue.suppress first).suppress second = queue.suppress (first + second) := by
  rw [suppress, suppress, suppress, Nat.add_assoc]

theorem suppress_eq_self_iff {count : Nat} : queue.suppress count = queue ↔ count = 0 := by
  refine ⟨fun same => ?_, fun none => none ▸ queue.suppress_zero⟩
  have counts : queue.suppressed + count = queue.suppressed :=
    congrArg DiagnosticQueue.suppressed same
  exact Nat.add_eq_left.mp counts

/-! ## One diagnostic -/

theorem isOverLimit_eq (queue : DiagnosticQueue) (diagnostic : Diagnostic) :
    queue.isOverLimit diagnostic = (diagnostic.isError && queue.isFull) :=
  Bool.and_assoc ..

/-- The queue would not let a diagnostic in: its equal waits, or the limit refuses it. -/
def Settles (queue : DiagnosticQueue) (diagnostic : Diagnostic) : Prop :=
  diagnostic ∈ queue.waiting ∨ queue.isOverLimit diagnostic = true

theorem settles_suppress {count : Nat} :
    (queue.suppress count).Settles diagnostic ↔ queue.Settles diagnostic :=
  Iff.rfl

/-- What is settled is refused; it counts as suppressed exactly if the limit refuses it. -/
theorem add_of_settles
    (once : queue.limits.deduplicate = true)
    (settles : queue.Settles diagnostic) :
    queue.add diagnostic =
      (false, queue.suppress (if queue.isOverLimit diagnostic then 1 else 0)) := by
  rcases queue.add_cases diagnostic with
    ⟨exceeds, added⟩ | ⟨within, -, added⟩ | ⟨within, new, -⟩
  · rw [added, exceeds]
    rfl
  · rw [added, within]
    rfl
  · rcases settles with waits | exceeds
    · rw [isRepeated, once, Bool.true_and, decide_eq_false_iff_not] at new
      exact absurd waits new
    · exact absurd exceeds (Bool.eq_false_iff.mp within)

/-- Whatever was the answer, a diagnostic is settled after it was added. -/
theorem settles_add (queue : DiagnosticQueue) (diagnostic : Diagnostic) :
    (queue.add diagnostic).2.Settles diagnostic := by
  rcases queue.add_cases diagnostic with
    ⟨exceeds, added⟩ | ⟨-, repeated, added⟩ | ⟨-, -, added⟩
  · rw [added]
    exact .inr exceeds
  · rw [isRepeated, Bool.and_eq_true, decide_eq_true_eq] at repeated
    rw [added]
    exact .inl repeated.2
  · rw [added]
    exact .inl List.mem_concat_self

/-- Nothing leaves the queue and the limit stays reached, so what is settled stays so. -/
theorem Settles.add (settles : queue.Settles diagnostic) (other : Diagnostic) :
    (queue.add other).2.Settles diagnostic := by
  rcases queue.add_cases other with ⟨-, added⟩ | ⟨-, -, added⟩ | ⟨-, -, added⟩
  · rw [added]
    exact settles
  · rw [added]
    exact settles
  · rw [added]
    rcases settles with waits | exceeds
    · exact .inl (List.mem_append_left _ waits)
    · rw [isOverLimit, Bool.and_eq_true, decide_eq_true_eq] at exceeds
      refine .inr ?_
      rw [isOverLimit, Bool.and_eq_true, decide_eq_true_eq]
      exact ⟨exceeds.1, Nat.le_trans exceeds.2 (Nat.le_add_right _ _)⟩

/-! ## Several diagnostics -/

theorem limits_add (queue : DiagnosticQueue) (diagnostic : Diagnostic) :
    (queue.add diagnostic).2.limits = queue.limits := by
  rcases queue.add_cases diagnostic with ⟨-, added⟩ | ⟨-, -, added⟩ | ⟨-, -, added⟩ <;> rw [added]

theorem limits_addAll (queue : DiagnosticQueue) (diagnostics : List Diagnostic) :
    (queue.addAll diagnostics).limits = queue.limits := by
  induction diagnostics generalizing queue with
  | nil => rfl
  | cons first rest ih => exact (ih (queue.add first).2).trans (queue.limits_add first)

theorem Settles.addAll (settles : queue.Settles diagnostic) (others : List Diagnostic) :
    (queue.addAll others).Settles diagnostic := by
  induction others generalizing queue with
  | nil => exact settles
  | cons first rest ih => exact ih (settles.add first)

/-- All diagnostics that were added are settled. -/
theorem settles_addAll (queue : DiagnosticQueue) (diagnostics : List Diagnostic) :
    ∀ diagnostic ∈ diagnostics, (queue.addAll diagnostics).Settles diagnostic := by
  induction diagnostics generalizing queue with
  | nil => exact List.forall_mem_nil _
  | cons first rest ih =>
      exact List.forall_mem_cons.mpr
        ⟨(queue.settles_add first).addAll rest, ih (queue.add first).2⟩

/-- Adding settled diagnostics counts those that the limit refuses, and does nothing else. -/
theorem addAll_of_settles
    {diagnostics : List Diagnostic}
    (once : queue.limits.deduplicate = true)
    (settled : ∀ diagnostic ∈ diagnostics, queue.Settles diagnostic) :
    queue.addAll diagnostics = queue.suppress (diagnostics.countP queue.isOverLimit) := by
  induction diagnostics generalizing queue with
  | nil => exact queue.suppress_zero.symm
  | cons first rest ih =>
      rw [List.forall_mem_cons] at settled
      let refused := queue.suppress (if queue.isOverLimit first then 1 else 0)
      have added : (queue.add first).2 = refused :=
        congrArg Prod.snd (add_of_settles once settled.1)
      calc
        queue.addAll (first :: rest) = (queue.add first).2.addAll rest := rfl
        _ = refused.addAll rest := congrArg (addAll · rest) added
        _ = refused.suppress (rest.countP queue.isOverLimit) :=
          ih once fun diagnostic listed => settles_suppress.mpr (settled.2 diagnostic listed)
        _ = queue.suppress ((first :: rest).countP queue.isOverLimit) := by
          rw [suppress_suppress, List.countP_cons, Nat.add_comm]

theorem countP_isOverLimit (queue : DiagnosticQueue) (diagnostics : List Diagnostic) :
    diagnostics.countP queue.isOverLimit =
      if queue.isFull then diagnostics.countP Diagnostic.isError else 0 := by
  simp only [funext queue.isOverLimit_eq]
  cases queue.isFull with
  | true => simp
  | false => simp

/--
With repetitions dropped, a diagnostic that waits is refused when it is added
again, and its only effect is that an error counts as suppressed if the limit is
reached.  Adding diagnostics twice in a row leaves the queue as adding them once
does, but for the count of suppressed errors: it grows by the number of errors
among them if the limit is reached after the first time.  So the second time changes
nothing exactly if the limit is not reached or none of them is an error.
-/
theorem repetitions_suppressed
    (queue : DiagnosticQueue)
    (once : queue.limits.deduplicate = true) :
    (∀ diagnostic ∈ queue.waiting,
      queue.add diagnostic =
        (false, queue.suppress (if diagnostic.isError && queue.isFull then 1 else 0))) ∧
      ∀ diagnostics : List Diagnostic,
        let added := queue.addAll diagnostics
        added.addAll diagnostics =
            added.suppress
              (if added.isFull then diagnostics.countP Diagnostic.isError else 0) ∧
          (added.addAll diagnostics = added ↔
            added.isFull = false ∨ ∀ diagnostic ∈ diagnostics, diagnostic.isError = false) := by
  refine ⟨fun diagnostic waits => ?_, fun diagnostics => ?_⟩
  · rw [add_of_settles once (.inl waits), isOverLimit_eq]
  · intro added
    have again : added.addAll diagnostics =
        added.suppress
          (if added.isFull then diagnostics.countP Diagnostic.isError else 0) := by
      rw [addAll_of_settles ((queue.limits_addAll diagnostics).symm ▸ once)
        (queue.settles_addAll diagnostics), countP_isOverLimit]
    refine ⟨again, ?_⟩
    rw [again, suppress_eq_self_iff]
    cases added.isFull with
    | true => simp
    | false => simp

/-- An error at some place. -/
def noInstance : Diagnostic :=
  ⟨Code.noInstance, "no instance", [⟨⟨7, 8⟩, "requested here", true⟩], []⟩

/-- A warning about another place. -/
def severalConstructors : Diagnostic :=
  ⟨Code.severalConstructors, "skipped", [⟨⟨3, 5⟩, "requested by this annotation", true⟩], []⟩

theorem repetitions_suppressed_noInstance :
    let queue := (empty ⟨2, true⟩).addAll [noInstance]
    let pair := [severalConstructors, ⟨Code.internal, "internal", [], []⟩]
    queue.limits.deduplicate = true ∧ noInstance ∈ queue.waiting ∧
      queue.add noInstance = (false, queue) ∧
      (queue.addAll pair).addAll pair = (queue.addAll pair).suppress 1 := by
  intro queue pair
  have waits : noInstance ∈ queue.waiting := List.mem_singleton.mpr rfl
  have law := repetitions_suppressed queue rfl
  exact ⟨rfl, waits, law.1 noInstance waits, (law.2 pair).1⟩

/--
An error that waits is not always refused without a trace.  If one error may wait
and one was added, then the limit is reached although it has refused nothing so far;
the same error counts as suppressed when it is added again.
-/
theorem repeated_error_at_limit :
    let queue := (run ⟨1, true⟩ [.add noInstance]).2
    queue = (empty ⟨1, true⟩).addAll [noInstance] ∧ queue.suppressed = 0 ∧
      noInstance ∈ queue.waiting ∧ queue.add noInstance ≠ (false, queue) ∧
      queue.addAll [noInstance] ≠ queue := by
  intro queue
  have again : queue.add noInstance = (false, queue.suppress 1) := rfl
  refine ⟨rfl, rfl, List.mem_singleton.mpr rfl, fun same => ?_, fun same => ?_⟩
  · rw [again] at same
    exact Nat.one_ne_zero (suppress_eq_self_iff.mp (congrArg Prod.snd same))
  · exact Nat.one_ne_zero (suppress_eq_self_iff.mp same)

end DataDerive.DiagnosticQueue
