import TypeLint.Analysis.Matching

/-!
# Confirming hits

A hit is dropped when a directive excuses it, when its rule needs types and nobody can tell them, or
when the rule's own confirm function says so. Hits of a rule whose confirm function broke down are
dropped from there on without being counted.
-/

namespace TypeLint

/-- The confirmed hits so far, how many were dropped, and the rules that failed. -/
structure Confirmation (t : SyntaxTree) where
  confirmed : Array (Match t) := #[]
  suppressed : Nat := 0
  unconfirmed : Nat := 0
  failures : Array RuleFailure := #[]
  failed : List Nat := []

namespace Confirmation

/-- What becomes of one hit of a rule. -/
def judge (rules : RuleSet) (ctx : FileContext) (rule : Rule) (m : Match ctx.tree) :
    Except Fault Verdict :=
  if (ctx.allowed m.span.start rule.name rules).isAllowed then .ok .suppressed
  else if rule.requiresTypeInfo && !ctx.hasTypeInfo then .ok .unconfirmed
  else
    match rule.confirm with
    | none => .ok .confirmed
    | some confirm => confirm ctx m

/-- Takes one hit. -/
def take (rules : RuleSet) (ctx : FileContext) (acc : Confirmation ctx.tree) (m : Match ctx.tree) :
    Confirmation ctx.tree :=
  match rules.rule? m.rule with
  | none => acc
  | some rule =>
    if acc.failed.contains m.rule then acc
    else
      match judge rules ctx rule m with
      | .ok .confirmed => { acc with confirmed := acc.confirmed.push m }
      | .ok .suppressed => { acc with suppressed := acc.suppressed + 1 }
      | .ok .unconfirmed => { acc with unconfirmed := acc.unconfirmed + 1 }
      | .error fault =>
        { acc with
          failures := acc.failures.push ⟨rule.name, ctx.path, .confirming, fault.message⟩
          failed := m.rule :: acc.failed }

end Confirmation

/-- Confirms hits in order. -/
def confirmMatches (rules : RuleSet) (ctx : FileContext) (hits : List (Match ctx.tree)) :
    Confirmation ctx.tree :=
  hits.foldl (Confirmation.take rules ctx) {}

end TypeLint
