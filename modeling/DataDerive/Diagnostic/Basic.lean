import DataDerive.Diagnostic.Code
import DataDerive.Span

/-!
# Diagnostics and messages

A message is what a phase has to say about a declaration: a code, a text and
the places it is about.  A diagnostic is the same thing ready to be shown, with
a label for each place.  The first place of a message is the primary one.  A
diagnostic keeps a severity of its own, which is that of its code when it is made.
-/

namespace DataDerive

/-- A span with a text beside it. -/
structure Label where
  span : Span
  text : String
  /-- Whether this is where the diagnostic is about. -/
  primary : Bool
  deriving Repr, DecidableEq, Inhabited

/-- A code with the severity that a diagnostic of it has. -/
structure GradedCode where
  code : Code
  /-- How serious the diagnostic is. -/
  severity : Severity
  deriving Repr, DecidableEq, Inhabited

/-- A code at the severity that it has by itself. -/
def Code.graded (code : Code) : GradedCode :=
  ⟨code, code.severity⟩

/-- A diagnostic is made from a code at the severity of the code. -/
instance : Coe Code GradedCode := ⟨Code.graded⟩

/-- A diagnostic ready to be shown. -/
structure Diagnostic extends GradedCode where
  text : String
  labels : List Label
  notes : List String
  deriving Repr, DecidableEq, Inhabited

namespace Diagnostic

/-- Whether a diagnostic is an error. -/
def isError (diagnostic : Diagnostic) : Bool :=
  diagnostic.severity == .error

/-- Whether a diagnostic is a warning. -/
def isWarning (diagnostic : Diagnostic) : Bool :=
  diagnostic.severity == .warning

/-- The span of the first primary label. -/
def primarySpan? (diagnostic : Diagnostic) : Option Span :=
  (diagnostic.labels.find? Label.primary).map Label.span

/-- Severity, code and text on one line. -/
def headline (diagnostic : Diagnostic) : String :=
  s!"{diagnostic.severity.word}[{diagnostic.code.id}]: {diagnostic.text}"

end Diagnostic

/-- A place in a declaration that a message is about. -/
inductive Localization where
  /-- The declaration or one of its parts. -/
  | declaration (name : String) (span : Span)
  /-- The annotation of a declaration. -/
  | request (name : String) (span : Span)
  /-- One value inside the annotation. -/
  | value (name : String) (around : Span) (span : Span)
  deriving Repr, DecidableEq, Inhabited

namespace Localization

/-- The most precise span of a place. -/
def span : Localization → Span
  | .declaration _ span => span
  | .request _ span => span
  | .value _ _ span => span

/-- What a label at a place says. -/
def caption : Localization → String
  | .declaration _ _ => "declared here"
  | .request _ _ => "requested by this annotation"
  | .value _ _ _ => "requested here"

/-- The labels of a place: one for its span, and one for the annotation around a value. -/
def labels (primary : Bool) (place : Localization) : List Label :=
  ⟨place.span, place.caption, primary⟩ ::
    match place with
    | .value _ around _ => [⟨around, "in this annotation", false⟩]
    | _ => []

end Localization

/-- What a phase has to say about a declaration. -/
structure Message where
  code : Code
  text : String
  places : List Localization
  deriving Repr, DecidableEq, Inhabited

namespace Message

/-- A message about one place. -/
def at_ (code : Code) (text : String) (place : Localization) : Message :=
  ⟨code, text, [place]⟩

/-- How serious a message is. -/
def severity (message : Message) : Severity :=
  message.code.severity

/-- Whether a message ends the work on its declaration. -/
def isFatal (message : Message) : Bool :=
  message.severity == .error

/-- The labels of the places of a message; the first place is primary. -/
def labelsOf : List Localization → List Label
  | [] => []
  | first :: rest => first.labels true ++ rest.flatMap (Localization.labels false)

/-- The diagnostic that shows a message. -/
def toDiagnostic (message : Message) : Diagnostic :=
  ⟨message.code, message.text, labelsOf message.places, []⟩

end Message

/-- The outcome of a phase: a value, or the message that ended it. -/
abbrev Derived : Type → Type := Except Message

end DataDerive
