/-!
# Rules that break down

A rule that breaks down in some phase is reported once for that phase and left out of the rest of
it; the other rules are not touched.
-/

namespace TypeLint

/-- The phases in which a rule's functions run. -/
inductive Phase where
  | matching
  | confirming
  | fixing
  deriving DecidableEq, Repr

/-- The name of a phase in reports. -/
def Phase.name : Phase → String
  | .matching => "match"
  | .confirming => "confirm"
  | .fixing => "fix"

/-- A rule broke down on a file. -/
structure RuleFailure where
  rule : String
  file : String
  phase : Phase
  message : String
  deriving DecidableEq, Repr

/-- The failure in words. -/
def RuleFailure.display (f : RuleFailure) : String :=
  "rule `" ++ f.rule ++ "` failed during " ++ f.phase.name ++ " in " ++ f.file ++ ": " ++ f.message

end TypeLint
