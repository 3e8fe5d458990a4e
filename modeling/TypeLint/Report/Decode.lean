import TypeLint.Json.Basic
import TypeLint.Report.Basic

/-!
# Reports from JSON

How reports are read back. Fields that are not known are ignored, fields that may be left out have
their default, and everything else must be there and of the right kind. The fields of a record may
also be given as a list, in order.
-/

namespace TypeLint

/-- A record being read: the value of each field that is there. -/
abbrev Fields := String → Option Json

namespace Fields

/-- The fields of an object, or of a list that gives them in order. -/
def ofJson? (names : List String) : Json → Option Fields
  | .obj fields => some fun name => (fields.find? (·.1 == name)).map (·.2)
  | .arr items =>
    if items.length ≤ names.length then
      some fun name => ((names.zip items).find? (·.1 == name)).map (·.2)
    else none
  | _ => none

/-- A field that must be there. -/
def required (fields : Fields) (name : String) (read : Json → Option α) : Option α :=
  (fields name).bind read

/-- A field that has a default. -/
def orElse (fields : Fields) (name : String) (default : α) (read : Json → Option α) : Option α :=
  match fields name with
  | some j => read j
  | none => some default

/-- A field that may be left out or null. -/
def optional (fields : Fields) (name : String) (read : Json → Option α) : Option (Option α) :=
  match fields name with
  | none => some none
  | some .null => some none
  | some j => (read j).map some

end Fields

/-- A list all of whose items can be read. -/
def Json.list? (read : Json → Option α) : Json → Option (List α)
  | .arr items => items.mapM read
  | _ => none

/-- A 64-bit number. -/
def Json.word? (j : Json) : Option UInt64 := j.count?.map UInt64.ofNat

/-- The name of a constant: a text, or an object whose only field has that name and is null. -/
def Json.constant? : Json → Option String
  | .str name => some name
  | .obj [(name, .null)] => some name
  | _ => none

/-- Reads a span. -/
def Span.ofJson? (j : Json) : Option Span := do
  let f ← Fields.ofJson? ["start", "end"] j
  return ⟨← f.required "start" Json.count?, ← f.required "end" Json.count?⟩

/-- Reads an edit. -/
def Edit.ofJson? (j : Json) : Option Edit := do
  let f ← Fields.ofJson? ["span", "replacement", "original"] j
  return ⟨← f.required "span" Span.ofJson?, ← f.required "replacement" Json.str?,
    ← f.required "original" Json.str?⟩

/-- Reads a confidence. -/
def Confidence.ofJson? (j : Json) : Option Confidence := do
  match ← j.constant? with
  | "low" => return .low
  | "medium" => return .medium
  | "high" => return .high
  | _ => none

/-- Reads a fix. -/
def Fix.ofJson? (j : Json) : Option Fix := do
  let f ← Fields.ofJson? ["description", "confidence", "edits", "fingerprint"] j
  return {
    description := ← f.required "description" Json.str?
    confidence := ← f.required "confidence" Confidence.ofJson?
    edits := ← f.required "edits" (Json.list? Edit.ofJson?)
    fingerprint := ← f.orElse "fingerprint" 0 Json.word? }

/-- Reads a location. -/
def Location.ofJson? (j : Json) : Option Location := do
  let f ← Fields.ofJson? ["file", "line", "column", "offset", "length"] j
  return {
    file := ← f.required "file" Json.str?
    line := ← f.required "line" Json.count?
    column := ← f.required "column" Json.count?
    offset := ← f.required "offset" Json.count?
    length := ← f.required "length" Json.count? }

/-- Reads a severity. -/
def Severity.ofJson? (j : Json) : Option Severity := do
  match ← j.constant? with
  | "suggestion" => return .suggestion
  | "warning" => return .warning
  | _ => none

/-- Reads a state. -/
def DiagnosticState.ofJson? (j : Json) : Option DiagnosticState := j.constant?.bind ofName?

/-- Reads a diagnostic. -/
def Diagnostic.ofJson? (j : Json) : Option Diagnostic := do
  let f ← Fields.ofJson?
    ["code", "rule", "severity", "location", "span", "message", "help", "fixes", "state", "note"] j
  return {
    code := ← f.required "code" Json.str?
    rule := ← f.required "rule" Json.str?
    severity := ← f.required "severity" Severity.ofJson?
    location := ← f.required "location" Location.ofJson?
    span := ← f.required "span" Span.ofJson?
    message := ← f.required "message" Json.str?
    help := ← f.optional "help" Json.str?
    fixes := ← f.orElse "fixes" [] (Json.list? Fix.ofJson?)
    state := ← f.required "state" DiagnosticState.ofJson?
    note := ← f.optional "note" Json.str? }

/-- Reads a phase. -/
def Phase.ofJson? (j : Json) : Option Phase := do
  match ← j.constant? with
  | "match" => return .matching
  | "confirm" => return .confirming
  | "fix" => return .fixing
  | _ => none

/-- Reads a rule failure. -/
def RuleFailure.ofJson? (j : Json) : Option RuleFailure := do
  let f ← Fields.ofJson? ["rule", "file", "phase", "message"] j
  return {
    rule := ← f.required "rule" Json.str?
    file := ← f.required "file" Json.str?
    phase := ← f.required "phase" Phase.ofJson?
    message := ← f.required "message" Json.str? }

/-- Reads a parse error. -/
def ParseError.ofJson? (j : Json) : Option ParseError := do
  let f ← Fields.ofJson? ["message", "line", "column"] j
  return {
    message := ← f.required "message" Json.str?
    line := ← f.required "line" Json.count?
    column := ← f.required "column" Json.count? }

/-- Reads the counts of a file. -/
def FileStats.ofJson? (j : Json) : Option FileStats := do
  let f ← Fields.ofJson? ["suppressed", "unconfirmed", "rejected_fixes", "skipped_rules"] j
  return {
    suppressed := ← f.required "suppressed" Json.count?
    unconfirmed := ← f.required "unconfirmed" Json.count?
    rejectedFixes := ← f.required "rejected_fixes" Json.count?
    skippedRules := ← f.required "skipped_rules" Json.count? }

/-- The statuses of files, in order. -/
def FileOutcome.statuses : List String := ["analyzed", "parse-failed", "timed-out", "cancelled", "io"]

/-- A status is given by its name or by its place among the statuses. -/
def FileOutcome.status? : Json → Option String
  | .str name => some name
  | .num (.ofNat n) => statuses[n]?
  | _ => none

/-- Reads an outcome from the fields of its report. -/
def FileOutcome.ofFields? (f : Fields) : Option FileOutcome := do
  match ← f.required "status" status? with
  | "analyzed" => return .analyzed
  | "parse-failed" => return .parseFailed (← f.required "error" ParseError.ofJson?)
  | "timed-out" => return .timedOut (← f.required "limit_ms" Json.count?)
  | "cancelled" => return .cancelled
  | "io" => return .io (← f.required "message" Json.str?)
  | _ => none

/-- Reads the report on a file; its fields have to be named. -/
def FileReport.ofJson? : Json → Option FileReport
  | .obj fields => do
    let f : Fields := fun name => (fields.find? (·.1 == name)).map (·.2)
    return {
      path := ← f.required "path" Json.str?
      outcome := ← FileOutcome.ofFields? f
      diagnostics := ← f.orElse "diagnostics" [] (Json.list? Diagnostic.ofJson?)
      failures := ← f.orElse "engine_errors" [] (Json.list? RuleFailure.ofJson?)
      stats := ← f.orElse "stats" {} FileStats.ofJson? }
  | _ => none

/-- Reads the counts over all files. -/
def BatchSummary.ofJson? (j : Json) : Option BatchSummary := do
  let f ← Fields.ofJson?
    ["files", "analyzed", "parse_errors", "io_errors", "timed_out", "cancelled", "warnings",
      "suggestions", "fixable", "suppressed", "unconfirmed", "rejected_fixes", "skipped_rules"] j
  return {
    files := ← f.required "files" Json.count?
    analyzed := ← f.required "analyzed" Json.count?
    parseErrors := ← f.required "parse_errors" Json.count?
    ioErrors := ← f.required "io_errors" Json.count?
    timedOut := ← f.required "timed_out" Json.count?
    cancelled := ← f.required "cancelled" Json.count?
    warnings := ← f.required "warnings" Json.count?
    suggestions := ← f.required "suggestions" Json.count?
    fixable := ← f.required "fixable" Json.count?
    suppressed := ← f.required "suppressed" Json.count?
    unconfirmed := ← f.required "unconfirmed" Json.count?
    rejectedFixes := ← f.required "rejected_fixes" Json.count?
    skippedRules := ← f.required "skipped_rules" Json.count? }

/-- Reads the report over all files. -/
def BatchReport.ofJson? (j : Json) : Option BatchReport := do
  let f ← Fields.ofJson? ["files", "summary"] j
  return {
    files := ← f.required "files" (Json.list? FileReport.ofJson?)
    summary := ← f.required "summary" BatchSummary.ofJson? }

end TypeLint
