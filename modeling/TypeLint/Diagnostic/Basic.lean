import TypeLint.Fix.Basic
import TypeLint.Text.Chars

/-!
# Diagnostics and their life

A diagnostic is one finding at one place. It moves through the states

    matched -> suppressed
    matched -> diagnosed -> fix-proposed -> applied | rejected
                         -> fix-unavailable

and `Diagnostic.transition` refuses every other move.
-/

namespace TypeLint

/-- How much a rule matters; a suggestion is below a warning. -/
inductive Severity where
  | suggestion
  | warning
  deriving DecidableEq, Repr

namespace Severity

/-- The name of a severity. -/
def name : Severity → String
  | .suggestion => "suggestion"
  | .warning => "warning"

/-- `s` is at least as severe as `floor`. -/
def atLeast (s floor : Severity) : Bool :=
  match s, floor with
  | .suggestion, .warning => false
  | _, _ => true

/-- Reads a severity in any case. -/
def parse (text : String) : Except String Severity :=
  match Text.lowerAscii text with
  | "suggestion" => .ok .suggestion
  | "warning" => .ok .warning
  | other => .error ("unknown severity `" ++ other ++ "` (expected `warning` or `suggestion`)")

end Severity

/-- Where a finding is: file, line and column for people, offset and length for tools. -/
structure Location where
  file : String
  line : Nat
  column : Nat
  offset : Nat
  length : Nat
  deriving DecidableEq, Repr

/-- The state of a diagnostic. -/
inductive DiagnosticState where
  | matched
  | suppressed
  | diagnosed
  | fixProposed
  | fixUnavailable
  | applied
  | rejected
  deriving DecidableEq, Repr

namespace DiagnosticState

/-- Every state. -/
def all : List DiagnosticState :=
  [.matched, .suppressed, .diagnosed, .fixProposed, .fixUnavailable, .applied, .rejected]

/-- The name of a state. -/
def name : DiagnosticState → String
  | .matched => "matched"
  | .suppressed => "suppressed"
  | .diagnosed => "diagnosed"
  | .fixProposed => "fix-proposed"
  | .fixUnavailable => "fix-unavailable"
  | .applied => "applied"
  | .rejected => "rejected"

/-- The state of a name. -/
def ofName? (name : String) : Option DiagnosticState := all.find? (·.name == name)

/-- The states that may follow. -/
def successors : DiagnosticState → List DiagnosticState
  | .matched => [.suppressed, .diagnosed]
  | .diagnosed => [.fixProposed, .fixUnavailable]
  | .fixProposed => [.applied, .rejected]
  | _ => []

/-- The move is part of the life of a diagnostic. -/
def canMoveTo (s next : DiagnosticState) : Bool := s.successors.contains next

/-- Nothing follows. -/
def isTerminal : DiagnosticState → Bool
  | .suppressed => true
  | .fixUnavailable => true
  | .applied => true
  | .rejected => true
  | _ => false

end DiagnosticState

/-- A move that is refused. -/
structure TransitionError where
  source : DiagnosticState
  target : DiagnosticState
  deriving DecidableEq, Repr

/-- The error in words. -/
def TransitionError.message (e : TransitionError) : String :=
  "illegal diagnostic transition " ++ e.source.name ++ " -> " ++ e.target.name

/-- One finding. -/
structure Diagnostic where
  code : String
  rule : String
  severity : Severity
  location : Location
  span : Span
  message : String
  help : Option String
  fixes : List Fix
  state : DiagnosticState
  note : Option String
  deriving DecidableEq, Repr

namespace Diagnostic

/-- Moves to a state, if that may follow. -/
def transition (d : Diagnostic) (next : DiagnosticState) : Except TransitionError Diagnostic :=
  if d.state.canMoveTo next then .ok { d with state := next } else .error ⟨d.state, next⟩

/-- The fix that is offered. -/
def proposedFix? (d : Diagnostic) : Option Fix :=
  if d.state = .fixProposed then d.fixes.head? else none

/-- The finding on one line: place, severity, code and message. -/
def compact (d : Diagnostic) : String :=
  d.location.file ++ ":" ++ toString d.location.line ++ ":" ++ toString d.location.column ++ ": "
    ++ d.severity.name ++ " [" ++ d.code ++ "] " ++ d.message

/-- The finding on one line, with its help. -/
def display (d : Diagnostic) : String :=
  match d.help with
  | some help => d.compact ++ " (help: " ++ help ++ ")"
  | none => d.compact

/-- What labels the place in a rendering of the source: the rule, and the note if there is one. -/
def label (d : Diagnostic) : String :=
  match d.note with
  | some note => d.rule ++ " (" ++ note ++ ")"
  | none => d.rule

end Diagnostic

end TypeLint
