import TypeLint.Analysis.Conflict
import TypeLint.ContentHash

/-!
# Proposing fixes

Every finding whose rule has a fixer is offered to it. A fix that does not apply to the text it was
made for is not proposed, and neither is one without edits. A rule whose fixer broke down offers no
more fixes. Conflicts between the proposed fixes are resolved last.
-/

namespace TypeLint

/-- The findings with their fixes, how many fixes were rejected, and the rules that failed. -/
structure Proposal (t : SyntaxTree) where
  findings : List (Finding t)
  rejected : Nat
  failures : List RuleFailure

namespace Proposal

/-- Moves a diagnostic to a state; a move that is refused is left out. -/
def moveTo (d : Diagnostic) (next : DiagnosticState) : Diagnostic :=
  match d.transition next with
  | .ok d => d
  | .error _ => d

/-- Records why there is no fix. -/
def manual (d : Diagnostic) (reason : String) : Diagnostic :=
  moveTo { d with note := some ("manual: " ++ reason) } .fixUnavailable

/-- Records what the fixer answered for the text with this hash. -/
def record (source : String) (fingerprint : UInt64) (d : Diagnostic) :
    Option FixOutcome → Diagnostic
  | none => moveTo d .fixUnavailable
  | some (.manual reason) => manual d reason
  | some (.proposed fix) =>
    if fix.edits.isEmpty then moveTo d .fixUnavailable
    else
      match fix.apply source with
      | .ok _ => moveTo { d with fixes := [{ fix with fingerprint }] } .fixProposed
      | .error _ => manual d "generated fix does not apply"

/-- What the fixer of a rule answers for a hit, and its fault if it broke down now. -/
def ask (ctx : FileContext) (rule : Rule) (failed : Bool) (m : Match ctx.tree) :
    Option FixOutcome × Option Fault :=
  match rule.fixer with
  | none => (none, none)
  | some fixer =>
    if failed then (some (.manual "fixer unavailable after an error"), none)
    else
      match fixer.run ctx m with
      | .ok outcome => (some outcome, none)
      | .error fault => (some (.manual "fixer failed"), some fault)

/-- Offers findings to their fixers in order; `failed` are the rules whose fixer broke down. -/
def offer (rules : RuleSet) (ctx : FileContext) (fingerprint : UInt64) :
    (failed : List Nat) → List (Finding ctx.tree) → List (Finding ctx.tree) × List RuleFailure
  | _, [] => ([], [])
  | failed, f :: rest =>
    match rules.rule? f.hit.rule with
    | none =>
      let (fs, failures) := offer rules ctx fingerprint failed rest
      (f :: fs, failures)
    | some rule =>
      let (outcome, fault) := ask ctx rule (failed.contains f.hit.rule) f.hit
      let f := { f with diagnostic := record ctx.source fingerprint f.diagnostic outcome }
      match fault with
      | none =>
        let (fs, failures) := offer rules ctx fingerprint failed rest
        (f :: fs, failures)
      | some fault =>
        let (fs, failures) := offer rules ctx fingerprint (f.hit.rule :: failed) rest
        (f :: fs, ⟨rule.name, ctx.path, .fixing, fault.message⟩ :: failures)

end Proposal

/-- Proposes fixes for findings and resolves the conflicts between them. -/
def proposeFixes (rules : RuleSet) (ctx : FileContext) (policy : FixPolicy)
    (findings : List (Finding ctx.tree)) : Proposal ctx.tree :=
  let (offered, failures) := Proposal.offer rules ctx (contentHash ctx.source) [] findings
  let (settled, rejected) := resolveConflicts rules policy offered
  { findings := settled, rejected, failures }

end TypeLint
