import DataDerive.Diagnostic.Queue
import Mathlib.Data.List.Count

/-!
# The counts of the queue

The counts of a queue are those of the diagnostics that wait.  An error is
refused only while another error waits, so the count of errors is zero only if no
error was ever added, whatever the limits are.
-/

namespace DataDerive.DiagnosticQueue

variable {queue : DiagnosticQueue} {diagnostic : Diagnostic}

/-- The counts of a queue are those of what waits. -/
structure Accounts (queue : DiagnosticQueue) : Prop where
  errors : queue.errorCount = queue.waiting.countP Diagnostic.isError
  warnings : queue.warningCount = queue.waiting.countP Diagnostic.isWarning

/-! ## One diagnostic -/

/-- What adding a diagnostic can do. -/
theorem add_cases (queue : DiagnosticQueue) (diagnostic : Diagnostic) :
    (queue.isOverLimit diagnostic = true ∧
      queue.add diagnostic = (false, { queue with suppressed := queue.suppressed + 1 })) ∨
    (queue.isOverLimit diagnostic = false ∧ queue.isRepeated diagnostic = true ∧
      queue.add diagnostic = (false, queue)) ∨
    (queue.isOverLimit diagnostic = false ∧ queue.isRepeated diagnostic = false ∧
      queue.add diagnostic =
        (true, { queue with
          waiting := queue.waiting ++ [diagnostic]
          errorCount := queue.errorCount + if diagnostic.isError then 1 else 0
          warningCount := queue.warningCount + if diagnostic.isWarning then 1 else 0 })) := by
  rw [add]
  split
  next exceeds => exact .inl ⟨exceeds, rfl⟩
  next within =>
    rw [Bool.not_eq_true] at within
    split
    next repeated => exact .inr (.inl ⟨within, repeated, rfl⟩)
    next new => exact .inr (.inr ⟨within, Bool.eq_false_iff.mpr new, rfl⟩)

theorem accounts_empty (limits : QueueLimits) : (empty limits).Accounts :=
  ⟨rfl, rfl⟩

theorem Accounts.add (accounts : queue.Accounts) (diagnostic : Diagnostic) :
    (queue.add diagnostic).2.Accounts := by
  rcases queue.add_cases diagnostic with ⟨-, added⟩ | ⟨-, -, added⟩ | ⟨-, -, added⟩
  · rw [added]
    exact ⟨accounts.errors, accounts.warnings⟩
  · rw [added]
    exact accounts
  · rw [added]
    constructor
    · rw [accounts.errors, List.countP_append, List.countP_singleton]
    · rw [accounts.warnings, List.countP_append, List.countP_singleton]

theorem errorCount_pos_of_isOverLimit (exceeds : queue.isOverLimit diagnostic = true) :
    0 < queue.errorCount := by
  rw [isOverLimit, Bool.and_eq_true, Bool.and_eq_true, decide_eq_true_eq,
    decide_eq_true_eq] at exceeds
  exact Nat.lt_of_lt_of_le exceeds.1.2 exceeds.2

theorem errorCount_pos_of_isRepeated
    (accounts : queue.Accounts)
    (repeated : queue.isRepeated diagnostic = true)
    (isError : diagnostic.isError = true) :
    0 < queue.errorCount := by
  rw [isRepeated, Bool.and_eq_true, decide_eq_true_eq] at repeated
  rw [accounts.errors, List.countP_pos_iff]
  exact ⟨diagnostic, repeated.2, isError⟩

/-- No error waits after a diagnostic was added if none waited before and it is none. -/
theorem errorCount_add_eq_zero_iff (accounts : queue.Accounts) :
    (queue.add diagnostic).2.errorCount = 0 ↔
      queue.errorCount = 0 ∧ diagnostic.isError = false := by
  rcases queue.add_cases diagnostic with ⟨exceeds, added⟩ | ⟨-, repeated, added⟩ | ⟨-, -, added⟩
  -- What is refused tells that an error waits: the limit is reached, or the error is repeated.
  · have waits := errorCount_pos_of_isOverLimit exceeds
    rw [added]
    exact iff_of_false (Nat.ne_of_gt waits) fun both => Nat.ne_of_gt waits both.1
  · rw [added]
    refine ⟨fun none => ⟨none, Bool.eq_false_iff.mpr fun isError => ?_⟩, And.left⟩
    exact Nat.ne_of_gt (errorCount_pos_of_isRepeated accounts repeated isError) none
  · rw [added]
    cases diagnostic.isError with
    | true => simp
    | false => simp

/-! ## A list of diagnostics -/

theorem Accounts.addAll (accounts : queue.Accounts) (diagnostics : List Diagnostic) :
    (queue.addAll diagnostics).Accounts := by
  induction diagnostics generalizing queue with
  | nil => exact accounts
  | cons first rest ih => exact ih (accounts.add first)

theorem errorCount_addAll_eq_zero_iff (accounts : queue.Accounts) (diagnostics : List Diagnostic) :
    (queue.addAll diagnostics).errorCount = 0 ↔
      queue.errorCount = 0 ∧ ∀ diagnostic ∈ diagnostics, diagnostic.isError = false := by
  induction diagnostics generalizing queue with
  | nil => simp [addAll]
  | cons first rest ih =>
      change ((queue.add first).2.addAll rest).errorCount = 0 ↔ _
      rw [ih (accounts.add first), errorCount_add_eq_zero_iff accounts, List.forall_mem_cons,
        and_assoc]

/-- A queue that was empty counts no error exactly if no error was added to it. -/
theorem errorCount_addAll_empty_eq_zero_iff
    (limits : QueueLimits)
    (diagnostics : List Diagnostic) :
    ((empty limits).addAll diagnostics).errorCount = 0 ↔
      ∀ diagnostic ∈ diagnostics, diagnostic.isError = false := by
  rw [errorCount_addAll_eq_zero_iff (accounts_empty limits)]
  exact and_iff_right rfl

end DataDerive.DiagnosticQueue
