import TypeLint.Analysis.Confirmation
import TypeLint.Analysis.Proposal
import TypeLint.Engine.Parser

/-!
# The analysis of one file

An engine holds rules, parsers and perhaps a type oracle. `Engine.analyzeSource` takes one text
through the phases: parse, find hits, confirm them, collect findings, propose fixes. Whatever goes
wrong with the file is part of its report.
-/

namespace TypeLint

/-- How to run an analysis. `jobs` says how many files may be worked on at once and never changes an
answer. -/
structure AnalyzeOptions where
  filter : RuleFilter := {}
  minSeverity : Severity := .suggestion
  typeInfo : Bool := true
  jobs : Nat := 0
  timeoutMs : Option Nat := none
  fixPolicy : FixPolicy := .firstRegistered

/-- A time limit for one file, in milliseconds. Time itself is not part of the library: a limit of
zero is over as soon as it starts, and any other is taken to be long enough. -/
structure Deadline where
  limitMs : Option Nat
  deriving DecidableEq, Repr

/-- The time limit that was over. -/
structure DeadlineExceeded where
  limitMs : Nat
  deriving DecidableEq, Repr

/-- The error in words. -/
def DeadlineExceeded.message (e : DeadlineExceeded) : String :=
  "analysis exceeded " ++ toString e.limitMs ++ " ms"

/-- The limit that is over, if it is. -/
def Deadline.exceeded? (d : Deadline) : Option DeadlineExceeded :=
  match d.limitMs with
  | some 0 => some ⟨0⟩
  | _ => none

/-- Why an analysis cannot start. -/
inductive EngineError where
  | noParser
  | ruleSet (error : RuleSetError)
  deriving DecidableEq, Repr

/-- The error in words. -/
def EngineError.message : EngineError → String
  | .noParser => "no source parser registered"
  | .ruleSet e => e.message

/-- What an analysis works with. -/
structure Engine where
  rules : RuleSet
  parsers : List SourceParser
  oracle : Option TypeOracle
  cancelled : Bool := false

namespace Engine

/-- An engine needs at least one parser. -/
def make (rules : RuleSet) (parsers : List SourceParser) (oracle : Option TypeOracle) :
    Except EngineError Engine :=
  if parsers.isEmpty then .error .noParser else .ok { rules, parsers, oracle }

/-- Some parser takes the file. -/
def handles (engine : Engine) (path : String) : Bool := engine.parsers.any (·.handles path)

/-- The rules to run. -/
def activeRules (engine : Engine) (filter : RuleFilter) : Except EngineError RuleSet :=
  match engine.rules.filter filter with
  | .ok rules => .ok rules
  | .error e => .error (.ruleSet e)

/-- The tree of a text; a parser that breaks down has failed to parse. -/
def parse (engine : Engine) (path source : String) : Except ParseError SyntaxTree :=
  match SourceParser.for? engine.parsers path with
  | none => .error ⟨"no parser registered for " ++ path, 0, 0⟩
  | some parser =>
    match parser.parse path source with
    | .ok result => result
    | .error fault => .error ⟨"parser panicked: " ++ fault.message, 0, 0⟩

/-- The phases after parsing, on a file whose time is not over. -/
def runRules (rules : RuleSet) (options : AnalyzeOptions) (ctx : FileContext) : FileReport :=
  let found := findMatches rules ctx
  let confirmation := confirmMatches rules ctx found.found.toList
  let findings :=
    collectFindings rules ctx options.minSeverity confirmation.confirmed.toList
  let proposal := proposeFixes rules ctx options.fixPolicy findings
  let failures := found.failures.toList ++ confirmation.failures.toList ++ proposal.failures
  { path := ctx.path
    outcome := .analyzed
    diagnostics := proposal.findings.map (·.diagnostic)
    failures
    stats := {
      suppressed := confirmation.suppressed
      unconfirmed := confirmation.unconfirmed
      rejectedFixes := proposal.rejected
      skippedRules := (failures.map (·.rule)).eraseDups.length } }

/-- The report on one text with the rules to run. -/
def run (engine : Engine) (rules : RuleSet) (options : AnalyzeOptions) (path source : String) :
    FileReport :=
  match engine.parse path source with
  | .error error => { path, outcome := .parseFailed error }
  | .ok tree =>
    match (Deadline.mk options.timeoutMs).exceeded? with
    | some e => { path, outcome := .timedOut e.limitMs }
    | none =>
      let oracle := if options.typeInfo then engine.oracle else none
      runRules rules options (.make path tree oracle)

/-- The report on one text. -/
def analyzeSource (engine : Engine) (options : AnalyzeOptions) (path source : String) :
    Except EngineError FileReport := do
  let rules ← engine.activeRules options.filter
  return engine.run rules options path source

end Engine

end TypeLint
