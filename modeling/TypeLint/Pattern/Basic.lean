import TypeLint.Pattern.Captures

/-!
# Tree patterns

A pattern is a test on one node that may look at its parent and below it and may bind what it finds.
`Pattern.attempt` runs a pattern on a capture set: it answers whether the node passes and the
captures afterwards. A failed attempt cuts the captures back to as many entries as there were, at
every level of the pattern.
-/

namespace TypeLint

/-- How many of a node's significant children must pass a test. -/
inductive Quantifier where
  | all
  | some
  | none
  | atLeast (n : Nat)
  | atMost (n : Nat)
  | exactly (n : Nat)
  deriving DecidableEq, Repr

/-- `hits` children of `total` are as many as asked for. -/
def Quantifier.accepts : Quantifier → (hits total : Nat) → Bool
  | .all, hits, total => hits == total
  | .some, hits, _ => 0 < hits
  | .none, hits, _ => hits == 0
  | .atLeast n, hits, _ => n ≤ hits
  | .atMost n, hits, _ => hits ≤ n
  | .exactly n, hits, _ => hits == n

/-- A test on one node. -/
inductive Pattern where
  /-- every node -/
  | any
  /-- nodes of this grammar kind -/
  | kind (kind : String)
  /-- nodes with this source text -/
  | text (text : String)
  /-- nodes with this bare token among their children -/
  | token (token : String)
  /-- the first child under the field exists and passes -/
  | field (name : String) (p : Pattern)
  /-- there is a parent and it passes -/
  | parent (p : Pattern)
  /-- as many significant children pass as the quantifier asks for -/
  | children (q : Quantifier) (p : Pattern)
  /-- every pattern passes, tried in order -/
  | all (ps : List Pattern)
  /-- some pattern passes; the first that does binds -/
  | anyOf (ps : List Pattern)
  /-- the pattern does not pass; it binds nothing -/
  | not (p : Pattern)
  /-- a test written as a function -/
  | holds (f : ∀ {t : SyntaxTree}, Node t → Bool)
  /-- binds the node under a name when the pattern passes -/
  | capture (name : String) (p : Pattern)

namespace Pattern

variable {t : SyntaxTree}

/-- After a failure only as many captures are kept as there were before. -/
def settle (before : Captures t) : Bool × Captures t → Bool × Captures t
  | (true, c) => (true, c)
  | (false, c) => (false, c.take before.size)

mutual

/-- Runs the pattern without cutting the captures back at the outermost level. -/
def eval : Pattern → Node t → Captures t → Bool × Captures t
  | .any, _, c => (true, c)
  | .kind k, n, c => (n.kind == k, c)
  | .text s, n, c => (n.text == s, c)
  | .token s, n, c => (n.hasToken s, c)
  | .field name p, n, c =>
    match n.child? name with
    | some child => settle c (eval p child c)
    | none => (false, c)
  | .parent p, n, c =>
    match n.parent with
    | some above => settle c (eval p above c)
    | none => (false, c)
  | .children q p, n, c =>
    let (hits, c) := n.significantChildren.foldl
      (fun (hits, c) child =>
        match settle c (eval p child c) with
        | (true, c) => (hits + 1, c)
        | (false, c) => (hits, c))
      (0, c)
    (q.accepts hits n.significantChildren.length, c)
  | .all ps, n, c => evalAll ps n c
  | .anyOf ps, n, c => evalAny ps n c
  | .not p, n, c => (!(eval p n .empty).1, c)
  | .holds f, n, c => (f n, c)
  | .capture name p, n, c =>
    match settle c (eval p n c) with
    | (true, c) => (true, c.bindNode name n)
    | (false, c) => (false, c)

/-- Runs patterns in order up to the first that fails. -/
def evalAll : List Pattern → Node t → Captures t → Bool × Captures t
  | [], _, c => (true, c)
  | p :: ps, n, c =>
    match settle c (eval p n c) with
    | (true, c) => evalAll ps n c
    | (false, c) => (false, c)

/-- Runs patterns in order up to the first that passes. -/
def evalAny : List Pattern → Node t → Captures t → Bool × Captures t
  | [], _, c => (false, c)
  | p :: ps, n, c =>
    match settle c (eval p n c) with
    | (true, c) => (true, c)
    | (false, c) => evalAny ps n c

end

/-- Runs the pattern on a node: the verdict and the captures afterwards. -/
def attempt (p : Pattern) (n : Node t) (c : Captures t) : Bool × Captures t :=
  settle c (p.eval n c)

/-- The node passes. -/
def accepts (p : Pattern) (n : Node t) : Bool := (p.attempt n .empty).1

/-- What the pattern binds on a node that passes, starting from nothing. -/
def match? (p : Pattern) (n : Node t) : Option (Captures t) :=
  match p.attempt n .empty with
  | (true, c) => some c
  | (false, _) => none

/-! ## Building patterns -/

/-- One of these kinds. -/
def kinds (ks : List String) : Pattern := .anyOf (ks.map .kind)

/-- Passes when both do; a conjunction takes the new test as its last. -/
def and : Pattern → Pattern → Pattern
  | .all ps, q => .all (ps ++ [q])
  | p, q => .all [p, q]

/-- The first child under the field must pass as well. -/
def andField (p : Pattern) (name : String) (q : Pattern) : Pattern := p.and (.field name q)

/-- The parent must pass as well. -/
def andParent (p q : Pattern) : Pattern := p.and (.parent q)

/-- So many significant children must pass as well. -/
def andChildren (p : Pattern) (quantifier : Quantifier) (q : Pattern) : Pattern :=
  p.and (.children quantifier q)

/-- The source text must be this one as well. -/
def andText (p : Pattern) (text : String) : Pattern := p.and (.text text)

/-- The bare token must be there as well. -/
def andToken (p : Pattern) (token : String) : Pattern := p.and (.token token)

/-- The bare token must not be there. -/
def andNoToken (p : Pattern) (token : String) : Pattern := p.and (.not (.token token))

/-- The function must hold as well. -/
def andHolds (p : Pattern) (f : ∀ {t : SyntaxTree}, Node t → Bool) : Pattern := p.and (.holds f)

/-- Binds the node that passes. -/
def as (p : Pattern) (name : String) : Pattern := .capture name p

end Pattern

end TypeLint
