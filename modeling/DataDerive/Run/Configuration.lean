import DataDerive.Derivation
import DataDerive.Diagnostic.Queue
import DataDerive.Diagnostic.Report

/-!
# Configuration of a run

What is generated for a declaration that leaves the choice open, and how the
messages of a run are shown.
-/

namespace DataDerive

/-- How the messages of a run are written. -/
inductive ReportFormat where
  /-- Lines for a reader. -/
  | terminal
  /-- One JSON array for a tool. -/
  | json
  deriving Repr, DecidableEq, Inhabited

namespace ReportFormat

/-- The word for a format. -/
def word : ReportFormat → String
  | .terminal => "terminal"
  | .json => "json"

/-- The format with a word. -/
def ofWord? (word : String) : Option ReportFormat :=
  [ReportFormat.terminal, .json].find? fun format => format.word == word

end ReportFormat

/-- What can be chosen for a run. -/
structure Configuration where
  /-- The derivations of a declaration that lists none. -/
  derivations : List Derivation
  /-- Which messages are shown. -/
  limits : QueueLimits
  format : ReportFormat
  color : ColorMode
  deriving Repr, DecidableEq

namespace Configuration

/-- Every derivation, the usual limits, and lines in colour on a terminal. -/
def standard : Configuration :=
  ⟨Derivation.all, .standard, .terminal, .auto⟩

end Configuration

end DataDerive
