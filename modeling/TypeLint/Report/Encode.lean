import TypeLint.Json.Basic
import TypeLint.Report.Basic

/-!
# Reports as JSON

How reports are written. A field that says nothing is left out: help and note when there is none,
fixes and failures when there are none.
-/

namespace TypeLint

/-- A field that is written only when there is a value. -/
def Json.optionalField (name : String) (f : α → Json) : Option α → List (String × Json)
  | some a => [(name, f a)]
  | none => []

/-- A field that is written only when the list is not empty. -/
def Json.listField (name : String) (f : α → Json) (items : List α) : List (String × Json) :=
  if items.isEmpty then [] else [(name, .arr (items.map f))]

/-- A span as JSON. -/
def Span.toJson (s : Span) : Json := .obj [("start", .ofNat s.start), ("end", .ofNat s.stop)]

/-- An edit as JSON. -/
def Edit.toJson (e : Edit) : Json :=
  .obj [("span", e.span.toJson), ("replacement", .str e.replacement), ("original", .str e.expected)]

/-- A fix as JSON. -/
def Fix.toJson (f : Fix) : Json :=
  .obj [("description", .str f.description), ("confidence", .str f.confidence.name),
    ("edits", .arr (f.edits.map Edit.toJson)), ("fingerprint", .ofNat f.fingerprint.toNat)]

/-- A location as JSON. -/
def Location.toJson (l : Location) : Json :=
  .obj [("file", .str l.file), ("line", .ofNat l.line), ("column", .ofNat l.column),
    ("offset", .ofNat l.offset), ("length", .ofNat l.length)]

/-- A diagnostic as JSON. -/
def Diagnostic.toJson (d : Diagnostic) : Json :=
  .obj <|
    [("code", .str d.code), ("rule", .str d.rule), ("severity", .str d.severity.name),
      ("location", d.location.toJson), ("span", d.span.toJson), ("message", .str d.message)]
    ++ Json.optionalField "help" .str d.help
    ++ Json.listField "fixes" Fix.toJson d.fixes
    ++ [("state", .str d.state.name)]
    ++ Json.optionalField "note" .str d.note

/-- A rule failure as JSON. -/
def RuleFailure.toJson (f : RuleFailure) : Json :=
  .obj [("rule", .str f.rule), ("file", .str f.file), ("phase", .str f.phase.name),
    ("message", .str f.message)]

/-- A parse error as JSON. -/
def ParseError.toJson (e : ParseError) : Json :=
  .obj [("message", .str e.message), ("line", .ofNat e.line), ("column", .ofNat e.column)]

/-- The name of an outcome. -/
def FileOutcome.status : FileOutcome → String
  | .analyzed => "analyzed"
  | .parseFailed _ => "parse-failed"
  | .timedOut _ => "timed-out"
  | .cancelled => "cancelled"
  | .io _ => "io"

/-- The fields of an outcome, which stand among those of its report. -/
def FileOutcome.fields (o : FileOutcome) : List (String × Json) :=
  ("status", .str o.status) ::
    match o with
    | .parseFailed error => [("error", error.toJson)]
    | .timedOut limit => [("limit_ms", .ofNat limit)]
    | .io message => [("message", .str message)]
    | .analyzed => []
    | .cancelled => []

/-- The counts of a file as JSON. -/
def FileStats.toJson (s : FileStats) : Json :=
  .obj [("suppressed", .ofNat s.suppressed), ("unconfirmed", .ofNat s.unconfirmed),
    ("rejected_fixes", .ofNat s.rejectedFixes), ("skipped_rules", .ofNat s.skippedRules)]

/-- The report on a file as JSON. -/
def FileReport.toJson (r : FileReport) : Json :=
  .obj <|
    ("path", .str r.path) :: r.outcome.fields
    ++ [("diagnostics", .arr (r.diagnostics.map Diagnostic.toJson))]
    ++ Json.listField "engine_errors" RuleFailure.toJson r.failures
    ++ [("stats", r.stats.toJson)]

/-- The counts over all files as JSON. -/
def BatchSummary.toJson (s : BatchSummary) : Json :=
  .obj [("files", .ofNat s.files), ("analyzed", .ofNat s.analyzed),
    ("parse_errors", .ofNat s.parseErrors), ("io_errors", .ofNat s.ioErrors),
    ("timed_out", .ofNat s.timedOut), ("cancelled", .ofNat s.cancelled),
    ("warnings", .ofNat s.warnings), ("suggestions", .ofNat s.suggestions),
    ("fixable", .ofNat s.fixable), ("suppressed", .ofNat s.suppressed),
    ("unconfirmed", .ofNat s.unconfirmed), ("rejected_fixes", .ofNat s.rejectedFixes),
    ("skipped_rules", .ofNat s.skippedRules)]

/-- The report over all files as JSON. -/
def BatchReport.toJson (r : BatchReport) : Json :=
  .obj [("files", .arr (r.files.map FileReport.toJson)), ("summary", r.summary.toJson)]

end TypeLint
