import TypeLint.Analysis.Failure
import TypeLint.Diagnostic.Basic

/-!
# Reports

What an analysis answers: a report per file, in input order, and the counts over all of them.
-/

namespace TypeLint

/-- Why a text could not be parsed, and where; line and column are zero when unknown. -/
structure ParseError where
  message : String
  line : Nat := 0
  column : Nat := 0
  deriving DecidableEq, Repr

/-- The error in words. -/
def ParseError.display (e : ParseError) : String :=
  toString e.line ++ ":" ++ toString e.column ++ ": " ++ e.message

/-- How far the analysis of a file got. -/
inductive FileOutcome where
  | analyzed
  | parseFailed (error : ParseError)
  | timedOut (limitMs : Nat)
  | cancelled
  | io (message : String)
  deriving DecidableEq, Repr

/-- The file could not be analyzed. A file that was not started has not failed. -/
def FileOutcome.isFailure : FileOutcome → Bool
  | .parseFailed _ => true
  | .timedOut _ => true
  | .io _ => true
  | .analyzed => false
  | .cancelled => false

/-- Counts of what does not show as a diagnostic. -/
structure FileStats where
  suppressed : Nat := 0
  unconfirmed : Nat := 0
  rejectedFixes : Nat := 0
  skippedRules : Nat := 0
  deriving DecidableEq, Repr

/-- The result for one file. -/
structure FileReport where
  path : String
  outcome : FileOutcome
  diagnostics : List Diagnostic := []
  failures : List RuleFailure := []
  stats : FileStats := {}
  deriving DecidableEq, Repr

/-- Some diagnostic is a warning. -/
def FileReport.hasWarnings (r : FileReport) : Bool :=
  r.diagnostics.any (·.severity == .warning)

/-- Counts over all files. -/
structure BatchSummary where
  files : Nat := 0
  analyzed : Nat := 0
  parseErrors : Nat := 0
  ioErrors : Nat := 0
  timedOut : Nat := 0
  cancelled : Nat := 0
  warnings : Nat := 0
  suggestions : Nat := 0
  fixable : Nat := 0
  suppressed : Nat := 0
  unconfirmed : Nat := 0
  rejectedFixes : Nat := 0
  skippedRules : Nat := 0
  deriving DecidableEq, Repr

/-- Adds the outcome of one file. -/
def BatchSummary.recordOutcome (s : BatchSummary) : FileOutcome → BatchSummary
  | .analyzed => { s with analyzed := s.analyzed + 1 }
  | .parseFailed _ => { s with parseErrors := s.parseErrors + 1 }
  | .timedOut _ => { s with timedOut := s.timedOut + 1 }
  | .cancelled => { s with cancelled := s.cancelled + 1 }
  | .io _ => { s with ioErrors := s.ioErrors + 1 }

/-- Adds the results of one file. -/
def BatchSummary.record (s : BatchSummary) (r : FileReport) : BatchSummary :=
  let s := s.recordOutcome r.outcome
  { s with
    files := s.files + 1
    warnings := s.warnings + r.diagnostics.countP (·.severity == .warning)
    suggestions := s.suggestions + r.diagnostics.countP (·.severity == .suggestion)
    fixable := s.fixable + r.diagnostics.countP (·.state == .fixProposed)
    suppressed := s.suppressed + r.stats.suppressed
    unconfirmed := s.unconfirmed + r.stats.unconfirmed
    rejectedFixes := s.rejectedFixes + r.stats.rejectedFixes
    skippedRules := s.skippedRules + r.stats.skippedRules }

/-- The results of a run. -/
structure BatchReport where
  files : List FileReport
  summary : BatchSummary
  deriving DecidableEq, Repr

namespace BatchReport

/-- The report over the results of files. -/
def ofFiles (files : List FileReport) : BatchReport :=
  { files, summary := files.foldl BatchSummary.record {} }

/-- Every diagnostic, in file order. -/
def diagnostics (r : BatchReport) : List Diagnostic := r.files.flatMap (·.diagnostics)

/-- Some warning is still there. -/
def hasWarnings (r : BatchReport) : Bool :=
  r.diagnostics.any fun d => d.severity == .warning && d.state != .applied

/-- Some file failed or some rule broke down. -/
def hasFailures (r : BatchReport) : Bool :=
  r.files.any fun f => f.outcome.isFailure || !f.failures.isEmpty

end BatchReport

end TypeLint
