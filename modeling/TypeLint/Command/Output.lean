import TypeLint.Command.Arguments
import TypeLint.Json.Printer
import TypeLint.Report.Encode

/-!
# How results are shown

What a command writes to its two streams. Findings go to the output, failures of files and rules to
the errors. A report as JSON goes to the output whole.
-/

namespace TypeLint.Command

/-- What a command writes. -/
structure Output where
  output : String := ""
  errors : String := ""
  deriving DecidableEq, Repr

namespace Output

/-- One text after another on both streams. -/
def append (a b : Output) : Output := ⟨a.output ++ b.output, a.errors ++ b.errors⟩

/-- Everything one after another. -/
def concat (outputs : List Output) : Output := outputs.foldl append {}

/-- A line of output. -/
def line (text : String) : Output := ⟨text ++ "\n", ""⟩

/-- A line of errors. -/
def errorLine (text : String) : Output := ⟨"", text ++ "\n"⟩

end Output

open Output

/-- Why a file has no findings, if it failed. -/
def failure? : FileOutcome → Option String
  | .analyzed => none
  | .parseFailed error => some ("syntax error at " ++ error.display)
  | .timedOut limitMs => some ("timed out after " ++ toString limitMs ++ " ms")
  | .cancelled => some "cancelled"
  | .io message => some ("cannot read file: " ++ message)

/-- What went wrong with a file. -/
def showFailures (file : FileReport) : Output :=
  let reason := (failure? file.outcome).map fun r => errorLine (file.path ++ ": error: " ++ r)
  concat (reason.toList ++ file.failures.map fun f => errorLine ("error: " ++ f.display))

/-- The findings of a file that are not fixed. -/
def pending (file : FileReport) : List Diagnostic :=
  file.diagnostics.filter fun d => d.state != .applied

/-- The counts in one line. -/
def summaryLine (report : BatchReport) : String :=
  let s := report.summary
  let applied := report.diagnostics.countP (·.state == .applied)
  let failed := s.parseErrors + s.ioErrors + s.timedOut
  "Found " ++ toString s.warnings ++ " warning(s), " ++ toString s.suggestions
    ++ " suggestion(s) in " ++ toString s.files ++ " file(s)"
    ++ (if 0 < applied then ", fixed " ++ toString applied
        else if 0 < s.fixable then ", " ++ toString s.fixable ++ " fixable with --fix"
        else "")
    ++ (if 0 < failed then "; " ++ toString failed ++ " file(s) could not be analyzed" else "")

/-- The colour of the summary: red for failures, yellow for warnings, else green. -/
def summaryColor (report : BatchReport) : String :=
  if report.hasFailures then "\x1b[31m"
  else if report.hasWarnings then "\x1b[33m"
  else "\x1b[32m"

/-- The report for people. -/
def showText (report : BatchReport) : Output :=
  let files := report.files.map fun file =>
    append (showFailures file) (concat ((pending file).map fun d => line d.display))
  append (concat files) (line (summaryColor report ++ summaryLine report ++ "\x1b[0m"))

/-- The report with one line a finding. -/
def showCompact (report : BatchReport) : Output :=
  concat (report.files.map fun file =>
    append (showFailures file) (concat ((pending file).map fun d => line d.compact)))

/-- The report in a format. -/
def showReport (format : OutputFormat) (report : BatchReport) : Output :=
  match format with
  | .text => showText report
  | .json => line report.toJson.pretty
  | .compact => showCompact report

end TypeLint.Command
