import TypeLint.Analysis.Matching

/-!
# Findings

Confirmed hits become diagnostics. Of several hits of one rule at one span only the first counts,
rules below the severity floor are left out, and the findings are ordered by where they start, then
by rule name.
-/

namespace TypeLint

/-- A diagnostic with the hit it came from. -/
structure Finding (t : SyntaxTree) where
  diagnostic : Diagnostic
  hit : Match t

namespace Finding

/-- The hits without those whose rule and span were seen before. -/
def distinctFrom {t : SyntaxTree} (seen : List (Nat × Span)) : List (Match t) → List (Match t)
  | [] => []
  | m :: rest =>
    if seen.contains (m.rule, m.span) then distinctFrom seen rest
    else m :: distinctFrom ((m.rule, m.span) :: seen) rest

/-- The diagnostic of a hit. -/
def diagnose (ctx : FileContext) (rule : Rule) (m : Match ctx.tree) : Diagnostic :=
  let position := ctx.position m.span.start
  { code := rule.code
    rule := rule.name
    severity := rule.severity
    location := {
      file := ctx.path, line := position.line, column := position.column
      offset := m.span.start, length := m.span.length }
    span := m.span
    message := Template.render rule.message m.captures
    help := rule.help.map (Template.render · m.captures)
    fixes := []
    state := .diagnosed
    note := none }

/-- The finding of a hit, unless its rule is below the floor. -/
def ofMatch? (rules : RuleSet) (ctx : FileContext) (floor : Severity) (m : Match ctx.tree) :
    Option (Finding ctx.tree) :=
  match rules.rule? m.rule with
  | none => none
  | some rule => if rule.severity.atLeast floor then some ⟨diagnose ctx rule m, m⟩ else none

/-- `a` is reported before `b`, or their order does not matter. -/
def before {t : SyntaxTree} (a b : Finding t) : Bool :=
  a.hit.span.start < b.hit.span.start ||
    (a.hit.span.start == b.hit.span.start && !decide (b.hit.ruleName < a.hit.ruleName))

end Finding

/-- The findings of confirmed hits. -/
def collectFindings (rules : RuleSet) (ctx : FileContext) (floor : Severity)
    (hits : List (Match ctx.tree)) : List (Finding ctx.tree) :=
  ((Finding.distinctFrom [] hits).filterMap (Finding.ofMatch? rules ctx floor)).mergeSort
    Finding.before

end TypeLint
