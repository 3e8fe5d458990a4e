import TypeLint.Analysis.Context
import TypeLint.Diagnostic.Basic
import TypeLint.Pattern.Basic
import TypeLint.Pattern.Template

/-!
# Rules

A rule is data: its identifiers and texts, how it finds candidate nodes, how a hit is confirmed, and
how it is fixed. The functions of a rule may break down; a `Fault` is that breakdown as a value,
so an analysis can go on with the other rules.
-/

namespace TypeLint

/-- A function of a rule broke down. -/
structure Fault where
  message : String
  deriving DecidableEq, Repr

/-- One hit of a rule: the position of the rule in its set, its name, the node it fired on, the span
to report, and what was captured. -/
structure Match (t : SyntaxTree) where
  rule : Nat
  ruleName : String
  node : Node t
  span : Span
  captures : Captures t

/-- What becomes of a hit: it is a finding, it is intended, or it cannot be decided. -/
inductive Verdict where
  | confirmed
  | suppressed
  | unconfirmed
  deriving DecidableEq, Repr

/-- What a fixer answers: a fix, or why there is none. -/
inductive FixOutcome where
  | proposed (fix : Fix)
  | manual (reason : String)
  deriving DecidableEq, Repr

/-- A fix, or the reason why its edits do not go together. -/
def FixOutcome.ofResult : Except EditError Fix → FixOutcome
  | .ok fix => .proposed fix
  | .error e => .manual e.message

/-- A high-confidence fix by these edits. -/
def FixOutcome.propose (description : String) (edits : List Edit) : FixOutcome :=
  .ofResult (Fix.make description .high edits)

/-- How a rule finds hits: by a pattern, or by a function that answers the captures of a hit. -/
inductive Matcher where
  | pattern (p : Pattern)
  | custom (f : (ctx : FileContext) → Node ctx.tree → Except Fault (Option (Captures ctx.tree)))

/-- One edit of a template. The target is the name of a captured node, or `node` for the node of the
hit; texts are templates over the captures. -/
inductive EditTemplate where
  | replace (target text : String)
  | insertBefore (target text : String)
  | insertAfter (target text : String)
  | delete (target : String)
  deriving DecidableEq, Repr

/-- How a rule fixes a hit: by templates, or by a function. -/
inductive Fixer where
  | template (description : String) (edits : List EditTemplate) (confidence : Confidence)
  | custom (f : (ctx : FileContext) → Match ctx.tree → Except Fault FixOutcome)

/-- Replaces one target by a text. -/
def Fixer.replace (description target text : String) : Fixer :=
  .template description [.replace target text] .high

/-- A rule. Until it is given a matcher it fires nowhere. -/
structure Rule where
  name : String
  code : String
  severity : Severity
  description : String := ""
  message : String := ""
  help : Option String := none
  matcher : Matcher := .pattern (.not .any)
  confirm : Option ((ctx : FileContext) → Match ctx.tree → Except Fault Verdict) := none
  fixer : Option Fixer := none
  requiresTypeInfo : Bool := false
  priority : Option Int := none

/-- The rule can fix what it finds. -/
def Rule.isFixable (rule : Rule) : Bool := rule.fixer.isSome

/-- What the rule captures on a node it fires on. -/
def Rule.evaluate (rule : Rule) (ctx : FileContext) (n : Node ctx.tree) :
    Except Fault (Option (Captures ctx.tree)) :=
  match rule.matcher with
  | .pattern p => .ok (p.match? n)
  | .custom f => f ctx n

/-- The span an edit template is about. -/
def EditTemplate.target : EditTemplate → String
  | .replace target _ => target
  | .insertBefore target _ => target
  | .insertAfter target _ => target
  | .delete target => target

/-- The edit a template makes at the span of its target. -/
def EditTemplate.editAt {t : SyntaxTree} (captures : Captures t) (span : Span) :
    EditTemplate → Edit
  | .replace _ text => .replace t.source span (Template.render text captures)
  | .insertBefore _ text => .insert span.start (Template.render text captures)
  | .insertAfter _ text => .insert span.stop (Template.render text captures)
  | .delete _ => .delete t.source span

/-- The span of a named target: the node of the hit, or a captured node. -/
def Match.target? {t : SyntaxTree} (m : Match t) (target : String) : Option Span :=
  if target = "node" then some m.node.span else m.captures.span? target

/-- The edits of the templates for a hit, or the first target that is not bound. -/
def Match.edits {t : SyntaxTree} (m : Match t) : List EditTemplate → Except String (List Edit)
  | [] => .ok []
  | template :: rest =>
    match m.target? template.target with
    | none => .error template.target
    | some span => do return template.editAt m.captures span :: (← m.edits rest)

/-- What a fixer answers for a hit. -/
def Fixer.run (fixer : Fixer) (ctx : FileContext) (m : Match ctx.tree) : Except Fault FixOutcome :=
  match fixer with
  | .custom f => f ctx m
  | .template description templates confidence =>
    match m.edits templates with
    | .error target => .ok (.manual ("capture `" ++ target ++ "` is not bound"))
    | .ok edits =>
      .ok (.ofResult (Fix.make (Template.render description m.captures) confidence edits))

end TypeLint
