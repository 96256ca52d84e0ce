import DataDerive.Diagnostic.Basic
import DataDerive.Json.Writer

/-!
# Showing diagnostics

Diagnostics are shown as lines for a reader, with colours if the output can
show them, or as a JSON array for a tool.  Both name a place by path, line and
column when the source is known, and by byte offsets otherwise.
-/

namespace DataDerive

/-- A source text and its path. -/
structure Source where
  path : String
  content : String
  deriving Repr, DecidableEq, Inhabited

/-- The text for a place in the source. -/
def Span.placeText (source : Option Source) (span : Span) : String :=
  match source with
  | some source =>
      let position := span.position source.content
      s!"{source.path}:{position.line}:{position.column}"
  | none => span.text

/-- When colours are used. -/
inductive ColorMode where
  /-- If the output is a terminal. -/
  | auto
  | always
  | never
  deriving Repr, DecidableEq, Inhabited

namespace ColorMode

/-- The word for a mode. -/
def word : ColorMode → String
  | .auto => "auto"
  | .always => "always"
  | .never => "never"

/-- The mode with a word. -/
def ofWord? (word : String) : Option ColorMode :=
  [ColorMode.auto, .always, .never].find? fun mode => mode.word == word

/-- Whether colours are used on an output. -/
def isOn (mode : ColorMode) (terminal : Bool) : Bool :=
  match mode with
  | .auto => terminal
  | .always => true
  | .never => false

end ColorMode

/-- The styles of the lines for a reader. -/
inductive Style where
  | error
  | warning
  | note
  | strong
  | secondary
  deriving Repr, DecidableEq

/-- The control sequence that turns a style on. -/
def Style.sequence : Style → String
  | .error => "\x1b[1;31m"
  | .warning => "\x1b[1;33m"
  | .note => "\x1b[1;36m"
  | .strong => "\x1b[1m"
  | .secondary => "\x1b[1;34m"

/-- The style of a severity. -/
def Severity.style : Severity → Style
  | .error => .error
  | .warning => .warning
  | .note => .note

namespace LineReport

/-- A text in a style, if colours are used. -/
def styled (colors : Bool) (style : Style) (text : String) : String :=
  if colors then style.sequence ++ text ++ "\x1b[0m" else text

/-- The line of a label. -/
def label (colors : Bool) (source : Option Source) (label : Label) : String :=
  let marker := if label.primary then "-->" else "   "
  let style := if label.primary then Style.error else Style.secondary
  s!"  {marker} {label.span.placeText source}: {styled colors style label.text}\n"

/-- The line of a note. -/
def note (colors : Bool) (note : String) : String :=
  "  = " ++ styled colors .strong "note" ++ ": " ++ note ++ "\n"

/-- The lines of a diagnostic, and an empty line. -/
def diagnostic (colors : Bool) (source : Option Source) (diagnostic : Diagnostic) : String :=
  let severity := styled colors diagnostic.severity.style diagnostic.severity.word
  let code := styled colors .strong s!"[{diagnostic.code.id}]"
  s!"{severity}{code}: {diagnostic.text}\n" ++
    String.join (diagnostic.labels.map (label colors source)) ++
    String.join (diagnostic.notes.map (note colors)) ++ "\n"

/-- A count and its noun, in the plural unless the count is one. -/
def counted (count : Nat) (noun : String) : String :=
  toString count ++ " " ++ noun ++ (if count == 1 then "" else "s")

/-- The last line: how many errors and warnings there were, if there were any. -/
def summary (colors : Bool) (errors warnings : Nat) : String :=
  if 0 < errors then
    let tail := if 0 < warnings then "; " ++ counted warnings "warning" ++ " emitted" else ""
    styled colors .error "error" ++ ": " ++ counted errors "declaration error" ++ tail ++ "\n"
  else if 0 < warnings then
    styled colors .warning "warning" ++ ": " ++ counted warnings "warning" ++ " emitted\n"
  else
    ""

/-- The lines of diagnostics and the summary. -/
def text
    (colors : Bool)
    (source : Option Source)
    (diagnostics : List Diagnostic)
    (errors warnings : Nat) : String :=
  String.join (diagnostics.map (diagnostic colors source)) ++ summary colors errors warnings

end LineReport

/-- Diagnostics collected for a tool, with the source that their places are looked up in. -/
structure JsonReport where
  source : Option Source
  pending : List Json

namespace JsonReport

/-- A label as an object. -/
def label (source : Option Source) (label : Label) : Json :=
  .object [("start", .nat label.span.start), ("end", .nat label.span.stop),
    ("position", .string (label.span.placeText source)), ("message", .string label.text),
    ("primary", .bool label.primary)]

/-- A diagnostic as an object. -/
def diagnostic (source : Option Source) (diagnostic : Diagnostic) : Json :=
  .object [("code", .string diagnostic.code.id), ("severity", .string diagnostic.severity.word),
    ("message", .string diagnostic.text), ("labels", .array (diagnostic.labels.map (label source))),
    ("notes", .array (diagnostic.notes.map Json.string))]

/-- A report in which nothing is collected. -/
def empty (source : Option Source) : JsonReport := ⟨source, []⟩

/-- Collect a diagnostic. -/
def add (report : JsonReport) (entry : Diagnostic) : JsonReport :=
  { report with pending := report.pending ++ [diagnostic report.source entry] }

/-- Collect diagnostics one after the other. -/
def addAll (report : JsonReport) (diagnostics : List Diagnostic) : JsonReport :=
  diagnostics.foldl add report

/-- Write what is collected as one line, and start again. -/
def flush (report : JsonReport) : String × JsonReport :=
  ((Json.array report.pending).write ++ "\n", empty report.source)

end JsonReport

end DataDerive
