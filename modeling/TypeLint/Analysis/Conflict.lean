import TypeLint.Analysis.Finding
import TypeLint.Span.Conflict

/-!
# Fixes that exclude each other

Two proposed fixes conflict when the spans that cover their edits overlap. The fixes are taken by
rank, and a fix is rejected when it conflicts with one already taken. Rank is the explicit priority
of the rule, higher first and zero by default; then the place of the rule in its set, by policy; then
where the hit starts; then the order of the findings.
-/

namespace TypeLint

/-- Which of two rules with equal priority wins: the one registered first, or last. -/
inductive FixPolicy where
  | firstRegistered
  | lastRegistered
  deriving DecidableEq, Repr

namespace FixPolicy

/-- The name of a policy. -/
def name : FixPolicy → String
  | .firstRegistered => "first-registered"
  | .lastRegistered => "last-registered"

/-- Reads the name of a policy. -/
def parse (text : String) : Except String FixPolicy :=
  match text with
  | "first-registered" => .ok .firstRegistered
  | "last-registered" => .ok .lastRegistered
  | other => .error ("unknown fix policy `" ++ other ++ "`")

end FixPolicy

namespace Conflict

/-- The rank of a rule, smaller first. A position without a rule ranks below every rule. -/
def rank (rules : RuleSet) (policy : FixPolicy) (i : Nat) : Int × Int :=
  match rules.rule? i with
  | some rule =>
    (-(rule.priority.getD 0),
      match policy with
      | .firstRegistered => (i : Int)
      | .lastRegistered => -(i : Int))
  | none => (2147483648, 9223372036854775807)

/-- The full rank of a finding: that of its rule, then where the hit starts. -/
def rankOf {t : SyntaxTree} (rules : RuleSet) (policy : FixPolicy) (f : Finding t) :
    Int × Int × Nat :=
  let (priority, order) := rank rules policy f.hit.rule
  (priority, order, f.hit.span.start)

/-- Ranks are compared from left to right. -/
def rankBefore (a b : Int × Int × Nat) : Bool :=
  a.1 < b.1 || (a.1 == b.1 && (a.2.1 < b.2.1 || (a.2.1 == b.2.1 && a.2.2 ≤ b.2.2)))

/-- A finding whose fix takes part in the election: its position and the span of its fix. -/
structure Candidate (t : SyntaxTree) where
  position : Nat
  finding : Finding t
  span : Span

/-- The findings with a proposed fix that has edits. -/
def candidates {t : SyntaxTree} (findings : List (Finding t)) : List (Candidate t) :=
  findings.zipIdx.filterMap fun (f, i) =>
    (f.diagnostic.proposedFix?.bind Fix.span?).map (⟨i, f, ·⟩)

/-- The other candidates that a candidate conflicts with, in ascending order. -/
def opponents (pairs : List (Nat × Nat)) (c : Nat) : List Nat :=
  pairs.filterMap fun (a, b) => if a = c then some b else if b = c then some a else none

/-- Goes through the candidates by rank: each is taken unless an opponent was, and then it loses to
the first such opponent. The answer lists losers with their winners. -/
def elect (pairs : List (Nat × Nat)) : (order taken : List Nat) → List (Nat × Nat)
  | [], _ => []
  | c :: rest, taken =>
    match (opponents pairs c).find? taken.contains with
    | none => elect pairs rest (c :: taken)
    | some winner => (c, winner) :: elect pairs rest taken

/-- The candidates' numbers by rank; equal ranks stay in order. -/
def order {t : SyntaxTree} (rules : RuleSet) (policy : FixPolicy) (cs : List (Candidate t)) :
    List Nat :=
  (cs.zipIdx.mergeSort fun a b =>
    rankBefore (rankOf rules policy a.1.finding) (rankOf rules policy b.1.finding)).map (·.2)

/-- The rejected findings by position, each with the rule it lost to. -/
def losers {t : SyntaxTree} (rules : RuleSet) (policy : FixPolicy) (findings : List (Finding t)) :
    List (Nat × String) :=
  let cs := candidates findings
  let pairs := Span.conflictingPairs (cs.map (·.span))
  (elect pairs (order rules policy cs) []).filterMap fun (c, w) => do
    let loser ← cs[c]?
    let winner ← cs[w]?
    return (loser.position, winner.finding.diagnostic.rule)

/-- The fix is withdrawn, and the note names the rule that won. -/
def reject (d : Diagnostic) (winner : String) : Diagnostic :=
  match d.transition .rejected with
  | .ok d =>
    { d with fixes := [], note := some ("manual: conflicts with fix from `" ++ winner ++ "`") }
  | .error _ => d

end Conflict

/-- Rejects every proposed fix that conflicts with a better one; also answers how many. -/
def resolveConflicts {t : SyntaxTree} (rules : RuleSet) (policy : FixPolicy)
    (findings : List (Finding t)) : List (Finding t) × Nat :=
  let losers := Conflict.losers rules policy findings
  (findings.zipIdx.map fun (f, i) =>
    match losers.find? (·.1 == i) with
    | some (_, winner) => { f with diagnostic := Conflict.reject f.diagnostic winner }
    | none => f,
    losers.length)

end TypeLint
