import DataDerive.Declaration
import DataDerive.Run.Configuration

/-!
# The report on a run

The messages of a run pass through a queue that keeps to the limits of the
configuration, and are written in the order of their places.  The counts are
those of the queue before it is flushed, so they count what is shown.
-/

namespace DataDerive

/-- How many messages a report holds. -/
structure ReportCounts where
  errors : Nat
  warnings : Nat
  /-- The errors left out because of the limit. -/
  suppressed : Nat
  deriving Repr, DecidableEq

/-- The source of a snapshot, if both its path and its text are known. -/
def Snapshot.sourceText? (snapshot : Snapshot) : Option Source := do
  return ⟨← snapshot.path, ← snapshot.source⟩

/-- The report on a run and its counts. -/
structure RunReport where
  text : String
  counts : ReportCounts
  deriving Repr, DecidableEq

namespace RunReport

/-- The text of diagnostics in the format of a configuration. -/
def textOf
    (configuration : Configuration)
    (terminal : Bool)
    (source : Option Source)
    (diagnostics : List Diagnostic)
    (counts : ReportCounts) : String :=
  match configuration.format with
  | .terminal =>
      LineReport.text (configuration.color.isOn terminal) source diagnostics counts.errors
        counts.warnings
  | .json => ((JsonReport.empty source).addAll diagnostics).flush.1

/-- Report messages.  `terminal` is whether the report goes to a terminal. -/
def ofMessages
    (configuration : Configuration)
    (terminal : Bool)
    (source : Option Source)
    (messages : List Message) : RunReport :=
  let queue := (DiagnosticQueue.empty configuration.limits).addAll
    (messages.map Message.toDiagnostic)
  let counts : ReportCounts := ⟨queue.errorCount, queue.warningCount, queue.suppressed⟩
  ⟨textOf configuration terminal source queue.flush.1 counts, counts⟩

end RunReport

end DataDerive
