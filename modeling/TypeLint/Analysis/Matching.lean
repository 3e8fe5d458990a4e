import TypeLint.Analysis.Failure
import TypeLint.Rule.RuleSet

/-!
# Finding hits

Every rule is tried on every node, nodes in document order and rules in registration order. A rule
that breaks down keeps the hits it had and is not tried again.
-/

namespace TypeLint

/-- The hits so far, the failures so far, and the positions of the rules that failed. -/
structure Matching (t : SyntaxTree) where
  found : Array (Match t) := #[]
  failures : Array RuleFailure := #[]
  failed : List Nat := []

namespace Matching

/-- The capture that narrows the reported span. -/
def spanCapture : String := "span"

/-- The hit of a rule on a node: it is reported at the node captured as `span`, if there is one. -/
def hit {t : SyntaxTree} (rule : Rule) (i : Nat) (n : Node t) (captures : Captures t) : Match t where
  rule := i
  ruleName := rule.name
  node := n
  span := (captures.span? spanCapture).getD n.span
  captures := captures

/-- Tries one rule on one node. -/
def tryRule (ctx : FileContext) (n : Node ctx.tree) (acc : Matching ctx.tree) (entry : Rule × Nat) :
    Matching ctx.tree :=
  let (rule, i) := entry
  if acc.failed.contains i then acc
  else
    match rule.evaluate ctx n with
    | .ok none => acc
    | .ok (some captures) => { acc with found := acc.found.push (hit rule i n captures) }
    | .error fault =>
      { acc with
        failures := acc.failures.push ⟨rule.name, ctx.path, .matching, fault.message⟩
        failed := i :: acc.failed }

/-- Tries every rule on one node. -/
def tryNode (rules : List (Rule × Nat)) (ctx : FileContext) (acc : Matching ctx.tree)
    (n : Node ctx.tree) : Matching ctx.tree :=
  rules.foldl (tryRule ctx n) acc

end Matching

/-- The hits of a rule set in a file. -/
def findMatches (rules : RuleSet) (ctx : FileContext) : Matching ctx.tree :=
  ctx.tree.preorder.foldl (Matching.tryNode rules.rules.zipIdx ctx) {}

end TypeLint
