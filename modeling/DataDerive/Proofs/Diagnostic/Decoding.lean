import DataDerive.Diagnostic.Report
import DataDerive.Proofs.Json.RoundTrip
import DataDerive.Snapshot.Document

/-!
# Reports decode to what was reported

A report for a tool is read as any JSON document is, and its objects are decoded
as strictly as those of a snapshot: every key once and no other, offsets of at
most thirty-two bits, codes and severities by their names.  What a tool sees of a
diagnostic is the diagnostic itself, with the text of the place beside each label.
-/

namespace DataDerive

/-- A label as a tool sees it. -/
structure ReportedLabel where
  label : Label
  place : String
  deriving DecidableEq

/-- A diagnostic as a tool sees it. -/
structure ReportedDiagnostic where
  code : Code
  severity : Severity
  text : String
  labels : List ReportedLabel
  notes : List String
  deriving DecidableEq

/--
The text of the place of a label: its path, line and column in a source that is
known, and otherwise its two offsets.
-/
def Label.placeIn (label : Label) : Option Source → String
  | some source =>
      source.path ++ ":" ++ toString (label.span.position source.content).line ++ ":" ++
        toString (label.span.position source.content).column
  | none => toString label.span.start ++ ".." ++ toString label.span.stop

theorem Label.placeText_span (label : Label) (source : Option Source) :
    label.span.placeText source = label.placeIn source := by
  cases source with
  | none => rfl
  | some source => rfl

/-- What a tool should see of a diagnostic. -/
def Diagnostic.reported (source : Option Source) (diagnostic : Diagnostic) :
    ReportedDiagnostic where
  code := diagnostic.code
  severity := diagnostic.severity
  text := diagnostic.text
  labels := diagnostic.labels.map fun label => ⟨label, label.placeIn source⟩
  notes := diagnostic.notes

/-- Every label starts and stops at an offset of at most thirty-two bits. -/
def Diagnostic.InText (diagnostic : Diagnostic) : Prop :=
  ∀ label ∈ diagnostic.labels,
    label.span.start < UInt32.size ∧ label.span.stop < UInt32.size

instance (diagnostic : Diagnostic) : Decidable diagnostic.InText :=
  inferInstanceAs (Decidable (∀ _ ∈ _, _))

/-! ## Decoding -/

namespace Document

/-- A code by its identifier. -/
def code : Decoder Code
  | .string id => Code.all.find? fun code => code.id = id
  | _ => none

/-- A severity by its word. -/
def severity : Decoder Severity
  | .string word => [Severity.error, .warning, .note].find? fun severity => severity.word = word
  | _ => none

/-- A label of a report. -/
def reportedLabel : Decoder ReportedLabel := fun json => do
  match ← record ["start", "end", "position", "message", "primary"] json with
  | [start, stop, place, message, primary] =>
      let span : Span := ⟨← required offset start, ← required offset stop⟩
      let place ← required text place
      return ⟨⟨span, ← required text message, ← required truth primary⟩, place⟩
  | _ => none

/-- A diagnostic of a report. -/
def reportedDiagnostic : Decoder ReportedDiagnostic := fun json => do
  match ← record ["code", "severity", "message", "labels", "notes"] json with
  | [id, word, message, labels, notes] =>
      return ⟨← required code id, ← required severity word, ← required text message,
        ← required (list reportedLabel) labels, ← required (list text) notes⟩
  | _ => none

theorem code_id (which : Code) : code (.string which.id) = some which := by
  cases which <;> rfl

theorem severity_word (which : Severity) : severity (.string which.word) = some which := by
  cases which <;> rfl

theorem offset_nat {value : Nat} (small : value < UInt32.size) :
    offset (Json.nat value) = some value :=
  if_pos small

/-- A list of values is decoded if each of them is. -/
theorem list_map
    {α β : Type}
    {item : Decoder β}
    (encode : α → Json)
    (expected : α → β)
    {values : List α}
    (each : ∀ value ∈ values, item (encode value) = some (expected value)) :
    list item (.array (values.map encode)) = some (values.map expected) := by
  rw [list]
  induction values with
  | nil => rfl
  | cons first rest ih =>
      rw [List.forall_mem_cons] at each
      rw [List.map_cons, List.mapM_cons, each.1, ih each.2]
      rfl

theorem reportedLabel_label
    (source : Option Source)
    {label : Label}
    (small : label.span.start < UInt32.size ∧ label.span.stop < UInt32.size) :
    reportedLabel (JsonReport.label source label) =
      some ⟨label, label.placeIn source⟩ := by
  have fields : record ["start", "end", "position", "message", "primary"]
      (JsonReport.label source label) =
        some [some (.nat label.span.start), some (.nat label.span.stop),
          some (.string (label.span.placeText source)), some (.string label.text),
          some (.bool label.primary)] := rfl
  simp only [reportedLabel, fields, required, offset_nat small.1, offset_nat small.2, text, truth,
    Option.bind_eq_bind, Option.bind_some, Option.pure_def, label.placeText_span]

theorem reportedDiagnostic_diagnostic
    (source : Option Source)
    {diagnostic : Diagnostic}
    (inText : diagnostic.InText) :
    reportedDiagnostic (JsonReport.diagnostic source diagnostic) =
      some (diagnostic.reported source) := by
  have fields : record ["code", "severity", "message", "labels", "notes"]
      (JsonReport.diagnostic source diagnostic) =
        some [some (.string diagnostic.code.id), some (.string diagnostic.severity.word),
          some (.string diagnostic.text),
          some (.array (diagnostic.labels.map (JsonReport.label source))),
          some (.array (diagnostic.notes.map Json.string))] := rfl
  have labels := list_map (JsonReport.label source) _
    fun label listed => reportedLabel_label source (inText label listed)
  have notes : list text (.array (diagnostic.notes.map Json.string)) = some diagnostic.notes := by
    have each := list_map Json.string id fun note (_ : note ∈ diagnostic.notes) =>
      (rfl : text (.string note) = some note)
    rwa [List.map_id] at each
  simp only [reportedDiagnostic, fields, required, code_id, severity_word, text, labels, notes,
    Option.bind_eq_bind, Option.bind_some, Option.pure_def]
  rfl

end Document

/-! ## Reading -/

namespace JsonReport

open Json

theorem fits_label {depth : Nat} (source : Option Source) {label : Label}
    (small : label.span.start < UInt32.size ∧ label.span.stop < UInt32.size) :
    Fits (depth + 1) (JsonReport.label source label) := by
  have range : UInt32.size < NumberParts.infinity := by decide +kernel
  refine .object ?_
  simp only [List.forall_mem_cons, List.not_mem_nil, false_imp_iff, implies_true, and_true]
  exact ⟨.natural (Nat.lt_trans small.1 range), .natural (Nat.lt_trans small.2 range), .string,
    .string, .bool⟩

theorem fits_diagnostic {depth : Nat} (source : Option Source) {diagnostic : Diagnostic}
    (inText : diagnostic.InText) :
    Fits (depth + 3) (JsonReport.diagnostic source diagnostic) := by
  refine .object ?_
  simp only [List.forall_mem_cons, List.not_mem_nil, false_imp_iff, implies_true, and_true]
  refine ⟨.string, .string, .string, .array ?_, .array ?_⟩
  · exact List.forall_mem_map.mpr fun label listed => fits_label source (inText label listed)
  · exact List.forall_mem_map.mpr fun _ _ => .string

/-- Collecting diagnostics puts their objects one after the other. -/
theorem addAll_eq (report : JsonReport) (diagnostics : List Diagnostic) :
    report.addAll diagnostics =
      ⟨report.source, report.pending ++ diagnostics.map (diagnostic report.source)⟩ := by
  induction diagnostics generalizing report with
  | nil => simp [addAll]
  | cons first rest ih =>
      change (report.add first).addAll rest = _
      rw [ih, add, List.map_cons, List.append_assoc, List.singleton_append]

/--
The text of a report is a JSON array with one object for each diagnostic, in
order, and each object decodes to the diagnostic that it was made from.  A report
that was just written has nothing left, so the next text is an empty array.
-/
theorem decode_flush
    (source : Option Source)
    {diagnostics : List Diagnostic}
    (inText : ∀ diagnostic ∈ diagnostics, diagnostic.InText) :
    let report := (empty source).addAll diagnostics
    (∃ items, Json.read report.flush.1 = some (.array items) ∧
      items.length = diagnostics.length ∧
      items.mapM Document.reportedDiagnostic =
        some (diagnostics.map (Diagnostic.reported source))) ∧
    report.flush.2.flush.1 = "[]\n" ∧
    Json.read report.flush.2.flush.1 = some (.array []) := by
  intro report
  have pending : report = ⟨source, diagnostics.map (diagnostic source)⟩ :=
    addAll_eq (empty source) diagnostics
  have fits : Fits deepest (.array (diagnostics.map (diagnostic source))) := by
    refine .array (List.forall_mem_map.mpr fun diagnostic listed => ?_)
    exact fits_diagnostic source (inText diagnostic listed)
  have written : report.flush.1 =
      (Json.array (diagnostics.map (diagnostic source))).write ++ String.ofList ['\n'] := by
    rw [pending]
    rfl
  have again : report.flush.2.flush.1 = "[]\n" := rfl
  refine ⟨⟨diagnostics.map (diagnostic source), ?_, List.length_map _, ?_⟩, again, ?_⟩
  · rw [written]
    exact read_write fits (.inr rfl)
  · exact Document.list_map (diagnostic source) (Diagnostic.reported source)
      fun diagnostic listed => Document.reportedDiagnostic_diagnostic source (inText diagnostic listed)
  · have none : Fits deepest (.array []) := .array (List.forall_mem_nil _)
    exact read_write none (.inr rfl)

/--
A warning whose text, caption and note have a quote, a backslash, control
characters and a letter outside the first plane, in a source of two lines.
-/
def quotedWarning : Diagnostic where
  toGradedCode := Code.severalConstructors.graded
  text := "say \"x\\y\""
  labels := [⟨⟨2, 3⟩, "tab\there", true⟩, ⟨⟨0, 1⟩, "\x00\x1f\x7f", false⟩]
  notes := ["\n\r\t 𝐀"]

theorem decode_flush_quotedWarning :
    (∀ diagnostic ∈ [quotedWarning, quotedWarning], diagnostic.InText) ∧
    let report := (empty (some ⟨"a.json", "x\ny"⟩)).addAll [quotedWarning, quotedWarning]
    (∃ items, Json.read report.flush.1 = some (.array items) ∧
      items.length = 2 ∧
      items.mapM Document.reportedDiagnostic =
        some ([quotedWarning, quotedWarning].map
          (Diagnostic.reported (some ⟨"a.json", "x\ny"⟩)))) ∧
    report.flush.2.flush.1 = "[]\n" ∧
    Json.read report.flush.2.flush.1 = some (.array []) :=
  have inText : ∀ diagnostic ∈ [quotedWarning, quotedWarning], diagnostic.InText := by decide
  ⟨inText, decode_flush (some ⟨"a.json", "x\ny"⟩) inText⟩

end JsonReport

end DataDerive
