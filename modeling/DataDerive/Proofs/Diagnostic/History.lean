import DataDerive.Proofs.Diagnostic.Queue
import Mathlib.Data.List.Induction
import Mathlib.Data.List.Nodup

/-!
# The history of a queue

Diagnostics are added to a queue and flushed out of it in any order.  The history
of a queue is the list of what was done to it, with the answers.  The queue keeps
four counts and a list; here they are read off the history: what waits is what was
accepted since the last flush, the counts are those of what waits, and the count
of suppressed errors is that of all refusals by the limit.  Every answer in a
history is the right one for what came before it.
-/

namespace DataDerive

/-! ## Histories -/

/-- What is done to a queue. -/
inductive QueueOperation where
  | add (diagnostic : Diagnostic)
  | flush
  deriving DecidableEq

/-- What was done to a queue, with the answer. -/
inductive QueueEvent where
  /-- A diagnostic was added; it was accepted or refused. -/
  | added (diagnostic : Diagnostic) (accepted : Bool)
  /-- The queue was flushed, and these diagnostics were handed out. -/
  | flushed (shown : List Diagnostic)
  deriving DecidableEq

namespace QueueEvent

variable (limits : QueueLimits) (earlier : List QueueEvent)

/-- What was accepted since the last flush.  A history starts with its latest event. -/
def accepted : List QueueEvent → List Diagnostic
  | [] => []
  | .added diagnostic true :: earlier => accepted earlier ++ [diagnostic]
  | .added _ false :: earlier => accepted earlier
  | .flushed _ :: _ => []

/-- The limit refuses an error after as many errors as may wait. -/
def LimitRefuses (diagnostic : Diagnostic) : Prop :=
  diagnostic.isError = true ∧ 0 < limits.errors ∧
    limits.errors ≤ (accepted earlier).countP Diagnostic.isError

instance (diagnostic : Diagnostic) : Decidable (LimitRefuses limits earlier diagnostic) :=
  inferInstanceAs (Decidable (_ ∧ _ ∧ _))

/-- A diagnostic whose equal was accepted since the last flush, where that is not allowed. -/
def Repeats (diagnostic : Diagnostic) : Prop :=
  limits.deduplicate = true ∧ diagnostic ∈ accepted earlier

/-- How many errors the limit ever refused. -/
def refusals : List QueueEvent → Nat
  | [] => 0
  | .added diagnostic false :: earlier =>
      refusals earlier + if LimitRefuses limits earlier diagnostic then 1 else 0
  | _ :: earlier => refusals earlier

end QueueEvent

/-! ## Orders of places -/

namespace Diagnostic

/-- Where the first primary label of a diagnostic starts, if it has one. -/
def start? (diagnostic : Diagnostic) : Option Nat :=
  (diagnostic.labels.find? fun label => label.primary).map fun label => label.span.start

theorem start?_eq (diagnostic : Diagnostic) :
    diagnostic.start? = diagnostic.primarySpan?.map Span.start :=
  (Option.map_map _ _ _).symm

/-- One diagnostic starts no later than another; those without a place come last. -/
def StartsBy (first second : Diagnostic) : Prop :=
  ∀ later ∈ second.start?, ∃ earlier ∈ first.start?, earlier ≤ later

theorem StartsBy.trans
    {first second third : Diagnostic}
    (one : first.StartsBy second)
    (other : second.StartsBy third) :
    first.StartsBy third := by
  intro last isLast
  obtain ⟨middle, isMiddle, before⟩ := other last isLast
  obtain ⟨start, isStart, sooner⟩ := one middle isMiddle
  exact ⟨start, isStart, Nat.le_trans sooner before⟩

theorem startsBy_of_start?_eq {first second : Diagnostic} (same : first.start? = second.start?) :
    first.StartsBy second :=
  fun start isStart => ⟨start, same ▸ isStart, Nat.le_refl start⟩

/-- The diagnostics that waited, by their places and otherwise as they were accepted. -/
structure InOrder (shown waited : List Diagnostic) : Prop where
  perm : shown.Perm waited
  sorted : shown.Pairwise StartsBy
  /-- Diagnostics of one place, or of none, keep their order. -/
  stable : ∀ place : Option Nat,
    (shown.filter fun diagnostic => diagnostic.start? = place) =
      waited.filter fun diagnostic => diagnostic.start? = place

end Diagnostic

namespace DiagnosticQueue

open Diagnostic QueueEvent

variable {queue : DiagnosticQueue} {limits : QueueLimits} {history : List QueueEvent}

theorem notAfter_eq_true_iff {first second : Diagnostic} :
    notAfter first second = true ↔ first.StartsBy second := by
  rw [notAfter, StartsBy, start?_eq, start?_eq]
  cases first.primarySpan? <;> cases second.primarySpan? <;> simp

theorem notAfter_total (first second : Diagnostic) :
    (notAfter first second || notAfter second first) = true := by
  rw [notAfter, notAfter]
  cases first.primarySpan? <;> cases second.primarySpan? <;> simp [Nat.le_total]

theorem notAfter_trans (first second third : Diagnostic)
    (one : notAfter first second = true)
    (other : notAfter second third = true) :
    notAfter first third = true :=
  notAfter_eq_true_iff.mpr
    ((notAfter_eq_true_iff.mp one).trans (notAfter_eq_true_iff.mp other))

/-- A flush hands out what waits in order. -/
theorem inOrder_flush (queue : DiagnosticQueue) : InOrder queue.flush.1 queue.waiting := by
  have perm : queue.flush.1.Perm queue.waiting := List.mergeSort_perm _ _
  refine ⟨perm, ?_, fun place => ?_⟩
  · exact (List.pairwise_mergeSort notAfter_trans notAfter_total queue.waiting).imp
      notAfter_eq_true_iff.mp
  · -- Diagnostics of one place are sorted as they wait, and sorting keeps a sorted part.
    have together : (queue.waiting.filter fun diagnostic => diagnostic.start? = place).Pairwise
        (fun first second => notAfter first second = true) := by
      refine List.pairwise_of_forall_mem_list fun first isFirst second isSecond => ?_
      have firstPlace : first.start? = place := by simpa using (List.mem_filter.mp isFirst).2
      have secondPlace : second.start? = place := by simpa using (List.mem_filter.mp isSecond).2
      exact notAfter_eq_true_iff.mpr (startsBy_of_start?_eq (firstPlace.trans secondPlace.symm))
    have kept := (List.sublist_mergeSort notAfter_trans notAfter_total together
      List.filter_sublist).filter fun diagnostic => diagnostic.start? = place
    rw [List.filter_filter] at kept
    simp only [Bool.and_self] at kept
    exact (kept.eq_of_length (perm.filter _).length_eq.symm).symm

/-! ## Runs -/

/-- Do something to a queue. -/
def perform (queue : DiagnosticQueue) : QueueOperation → QueueEvent × DiagnosticQueue
  | .add diagnostic => (.added diagnostic (queue.add diagnostic).1, (queue.add diagnostic).2)
  | .flush => (.flushed queue.flush.1, queue.flush.2)

/-- Do several things to a queue that was empty: the history, and the queue in the end. -/
def run (limits : QueueLimits) (operations : List QueueOperation) :
    List QueueEvent × DiagnosticQueue :=
  operations.foldl
    (fun (history, queue) operation =>
      ((queue.perform operation).1 :: history, (queue.perform operation).2))
    ([], empty limits)

/-- An answer is the right one for what came before. -/
def Answers (limits : QueueLimits) (earlier : List QueueEvent) : QueueEvent → Prop
  | .added diagnostic accepted =>
      accepted = true ↔
        ¬ LimitRefuses limits earlier diagnostic ∧ ¬ Repeats limits earlier diagnostic
  | .flushed shown => InOrder shown (accepted earlier)

/-- What a queue holds is what its history tells. -/
structure Reflects (limits : QueueLimits) (history : List QueueEvent) (queue : DiagnosticQueue) :
    Prop where
  sameLimits : queue.limits = limits
  waiting : queue.waiting = accepted history
  accounts : queue.Accounts
  suppressed : queue.suppressed = refusals limits history
  /-- No more errors wait than may. -/
  bounded : 0 < limits.errors → queue.errorCount ≤ limits.errors
  /-- Nothing waits twice. -/
  distinct : limits.deduplicate = true → queue.waiting.Nodup

theorem reflects_empty (limits : QueueLimits) : Reflects limits [] (empty limits) :=
  ⟨rfl, rfl, accounts_empty limits, rfl, fun _ => Nat.zero_le _, fun _ => List.nodup_nil⟩

namespace Reflects

variable (reflects : Reflects limits history queue)

include reflects

theorem isOverLimit_iff {diagnostic : Diagnostic} :
    queue.isOverLimit diagnostic = true ↔ LimitRefuses limits history diagnostic := by
  rw [isOverLimit, LimitRefuses, ← reflects.waiting, ← reflects.accounts.errors, reflects.sameLimits,
    Bool.and_eq_true, Bool.and_eq_true, decide_eq_true_eq, decide_eq_true_eq, and_assoc]

theorem isRepeated_iff {diagnostic : Diagnostic} :
    queue.isRepeated diagnostic = true ↔ Repeats limits history diagnostic := by
  rw [isRepeated, Repeats, ← reflects.waiting, reflects.sameLimits, Bool.and_eq_true,
    decide_eq_true_eq]

/-- An added diagnostic is accepted unless the limit refuses it or it repeats another. -/
theorem add (diagnostic : Diagnostic) :
    Answers limits history (.added diagnostic (queue.add diagnostic).1) ∧
      Reflects limits (.added diagnostic (queue.add diagnostic).1 :: history)
        (queue.add diagnostic).2 := by
  have accounts := reflects.accounts.add diagnostic
  rcases queue.add_cases diagnostic with
    ⟨exceeds, added⟩ | ⟨within, repeated, added⟩ | ⟨within, new, added⟩
  · have refused := reflects.isOverLimit_iff.mp exceeds
    rw [added] at accounts ⊢
    refine ⟨iff_of_false Bool.false_ne_true fun both => both.1 refused, ?_⟩
    refine ⟨reflects.sameLimits, reflects.waiting, accounts, ?_, reflects.bounded, reflects.distinct⟩
    rw [refusals, if_pos refused, reflects.suppressed]
  · have allowed : ¬ LimitRefuses limits history diagnostic := by
      rw [← reflects.isOverLimit_iff, within]
      exact Bool.false_ne_true
    rw [added] at accounts ⊢
    refine ⟨iff_of_false Bool.false_ne_true fun both => both.2 ?_, ?_⟩
    · exact reflects.isRepeated_iff.mp repeated
    refine ⟨reflects.sameLimits, reflects.waiting, accounts, ?_, reflects.bounded, reflects.distinct⟩
    rw [refusals, if_neg allowed, reflects.suppressed, Nat.add_zero]
  · have allowed : ¬ LimitRefuses limits history diagnostic := by
      rw [← reflects.isOverLimit_iff, within]
      exact Bool.false_ne_true
    have fresh : ¬ Repeats limits history diagnostic := by
      rw [← reflects.isRepeated_iff, new]
      exact Bool.false_ne_true
    rw [added] at accounts ⊢
    refine ⟨iff_of_true rfl ⟨allowed, fresh⟩, ?_⟩
    refine ⟨reflects.sameLimits, ?_, accounts, reflects.suppressed, fun limited => ?_, fun once => ?_⟩
    · exact congrArg (· ++ [diagnostic]) reflects.waiting
    · change queue.errorCount + (if diagnostic.isError then 1 else 0) ≤ limits.errors
      split
      next isError =>
        refine Nat.lt_of_not_le fun reached => allowed ⟨isError, limited, ?_⟩
        rwa [← reflects.waiting, ← reflects.accounts.errors]
      next => exact reflects.bounded limited
    · refine List.nodup_append.mpr ⟨reflects.distinct once, List.nodup_singleton _, ?_⟩
      rintro other waits _ listed rfl
      cases List.mem_singleton.mp listed
      exact fresh ⟨once, reflects.waiting ▸ waits⟩

/-- A flush hands out what was accepted and starts the counts again, but for the refusals. -/
theorem flush :
    Answers limits history (.flushed queue.flush.1) ∧
      Reflects limits (.flushed queue.flush.1 :: history) queue.flush.2 := by
  have inOrder := queue.inOrder_flush
  rw [reflects.waiting] at inOrder
  exact ⟨inOrder, reflects.sameLimits, rfl, ⟨rfl, rfl⟩, reflects.suppressed,
    fun _ => Nat.zero_le _, fun _ => List.nodup_nil⟩

theorem perform (operation : QueueOperation) :
    Answers limits history (queue.perform operation).1 ∧
      Reflects limits ((queue.perform operation).1 :: history) (queue.perform operation).2 := by
  cases operation with
  | add diagnostic => exact reflects.add diagnostic
  | flush => exact reflects.flush

end Reflects

/-- Every answer in a history is the right one for what came before it. -/
def AnswersThroughout (limits : QueueLimits) (history : List QueueEvent) : Prop :=
  ∀ later event earlier, history = later ++ event :: earlier → Answers limits earlier event

theorem answersThroughout_cons
    {event : QueueEvent}
    (answers : Answers limits history event)
    (throughout : AnswersThroughout limits history) :
    AnswersThroughout limits (event :: history) := by
  intro later other earlier split
  rcases List.cons_eq_append_iff.mp split with ⟨-, same⟩ | ⟨rest, -, same⟩
  · cases same
    exact answers
  · exact throughout rest other earlier same

theorem run_reflects (limits : QueueLimits) (operations : List QueueOperation) :
    AnswersThroughout limits (run limits operations).1 ∧
      Reflects limits (run limits operations).1 (run limits operations).2 := by
  -- The induction is on the operations from the last one on: a run ends with a step.
  induction operations using List.reverseRecOn with
  | nil =>
      refine ⟨fun later event earlier split => ?_, reflects_empty limits⟩
      exact absurd split.symm (List.append_ne_nil_of_right_ne_nil _ (List.cons_ne_nil _ _))
  | append_singleton operations operation ih =>
      obtain ⟨throughout, reflects⟩ := ih
      obtain ⟨answers, onward⟩ := reflects.perform operation
      have last : run limits (operations ++ [operation]) =
          (((run limits operations).2.perform operation).1 :: (run limits operations).1,
            ((run limits operations).2.perform operation).2) :=
        List.foldl_concat ..
      rw [last]
      exact ⟨answersThroughout_cons answers throughout, onward⟩

/--
A queue accounts for everything that is done to it.  After every run its counts
are those of what was accepted since the last flush, within the limit; the
suppressed errors are all that the limit ever refused; and nothing waits twice if
repetitions are refused.  Every diagnostic was accepted that the limit did not
refuse and that repeated nothing, so what is no error is refused as a repetition
only, and every flush handed out what was accepted since the one before it, in the
order of places.
-/
theorem run_accounts (limits : QueueLimits) (operations : List QueueOperation) :
    let history := (run limits operations).1
    let queue := (run limits operations).2
    queue.waiting = accepted history ∧
      queue.errorCount = (accepted history).countP Diagnostic.isError ∧
      queue.warningCount = (accepted history).countP Diagnostic.isWarning ∧
      (0 < limits.errors → queue.errorCount ≤ limits.errors) ∧
      queue.suppressed = refusals limits history ∧
      (limits.deduplicate = true → queue.waiting.Nodup) ∧
      (∀ later diagnostic accepted earlier,
        history = later ++ .added diagnostic accepted :: earlier →
          (accepted = true ↔
            ¬ LimitRefuses limits earlier diagnostic ∧ ¬ Repeats limits earlier diagnostic) ∧
          (accepted = false → diagnostic.isError = false → Repeats limits earlier diagnostic)) ∧
      ∀ later shown earlier, history = later ++ .flushed shown :: earlier →
        InOrder shown (accepted earlier) := by
  intro history queue
  obtain ⟨throughout, reflects⟩ : AnswersThroughout limits history ∧ Reflects limits history queue :=
    run_reflects limits operations
  refine ⟨reflects.waiting, ?_, ?_, reflects.bounded, reflects.suppressed, reflects.distinct,
    fun later diagnostic accepted earlier split => ?_, fun later shown earlier split => ?_⟩
  · rw [← reflects.waiting]
    exact reflects.accounts.errors
  · rw [← reflects.waiting]
    exact reflects.accounts.warnings
  · have answers := throughout later _ earlier split
    refine ⟨answers, fun refused noError => ?_⟩
    by_contra fresh
    have allowed : ¬ LimitRefuses limits earlier diagnostic :=
      fun exceeds => Bool.false_ne_true (noError.symm.trans exceeds.1)
    exact Bool.false_ne_true (refused.symm.trans (answers.mpr ⟨allowed, fresh⟩))
  · exact throughout later _ earlier split

end DiagnosticQueue

end DataDerive
