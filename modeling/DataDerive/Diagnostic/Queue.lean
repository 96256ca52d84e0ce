import DataDerive.Diagnostic.Basic

/-!
# The queue of diagnostics

Diagnostics wait in a queue until they are shown.  The queue may refuse an error
because enough errors wait already, and a diagnostic because its equal waits.
The limit is looked at first, so a refused error counts as suppressed even if
it repeats one that waits.  Flushing hands out what waits, ordered by the place
it is about, and starts the counts again; the count of suppressed errors goes
on.
-/

namespace DataDerive

/-- What a queue refuses. -/
structure QueueLimits where
  /-- How many errors may wait; zero is no limit. -/
  errors : Nat
  /-- Whether the equal of a waiting diagnostic is refused. -/
  deduplicate : Bool
  deriving Repr, DecidableEq

/-- Twenty errors, and nothing twice. -/
def QueueLimits.standard : QueueLimits := ⟨20, true⟩

/-- Diagnostics that wait, and the counts of what was added. -/
structure DiagnosticQueue where
  limits : QueueLimits
  waiting : List Diagnostic
  errorCount : Nat
  warningCount : Nat
  /-- Errors refused by the limit. -/
  suppressed : Nat
  deriving Repr, DecidableEq

namespace DiagnosticQueue

/-- A queue in which nothing waits. -/
def empty (limits : QueueLimits) : DiagnosticQueue :=
  ⟨limits, [], 0, 0, 0⟩

/-- Whether the limit refuses a diagnostic. -/
def isOverLimit (queue : DiagnosticQueue) (diagnostic : Diagnostic) : Bool :=
  diagnostic.isError && 0 < queue.limits.errors && queue.limits.errors ≤ queue.errorCount

/-- Whether the equal of a diagnostic waits and is therefore refused. -/
def isRepeated (queue : DiagnosticQueue) (diagnostic : Diagnostic) : Bool :=
  queue.limits.deduplicate && decide (diagnostic ∈ queue.waiting)

/-- Add a diagnostic.  The answer is whether it waits now. -/
def add (queue : DiagnosticQueue) (diagnostic : Diagnostic) : Bool × DiagnosticQueue :=
  if queue.isOverLimit diagnostic then
    (false, { queue with suppressed := queue.suppressed + 1 })
  else if queue.isRepeated diagnostic then
    (false, queue)
  else
    (true, { queue with
      waiting := queue.waiting ++ [diagnostic]
      errorCount := queue.errorCount + if diagnostic.isError then 1 else 0
      warningCount := queue.warningCount + if diagnostic.isWarning then 1 else 0 })

/-- Add diagnostics one after the other. -/
def addAll (queue : DiagnosticQueue) (diagnostics : List Diagnostic) : DiagnosticQueue :=
  diagnostics.foldl (fun queue diagnostic => (queue.add diagnostic).2) queue

/-- Whether an error waits. -/
def hasErrors (queue : DiagnosticQueue) : Bool :=
  0 < queue.errorCount

/-- Whether a diagnostic is shown no later than another: by its start, without one last. -/
def notAfter (left right : Diagnostic) : Bool :=
  match left.primarySpan?, right.primarySpan? with
  | some first, some second => first.start ≤ second.start
  | none, some _ => false
  | _, none => true

/-- Hand out what waits in the order of its places, and start again. -/
def flush (queue : DiagnosticQueue) : List Diagnostic × DiagnosticQueue :=
  (queue.waiting.mergeSort notAfter,
    { queue with waiting := [], errorCount := 0, warningCount := 0 })

end DiagnosticQueue

end DataDerive
