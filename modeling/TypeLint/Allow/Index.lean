import TypeLint.Allow.Directive
import TypeLint.LineIndex
import TypeLint.Tree.Walk

/-!
# Which lines are excused

A directive excuses the line its comment ends on and the line below. Of several directives that end
on one line, only the last counts.
-/

namespace TypeLint.Allow

/-- The answer to "may this rule fire here?": denied, or allowed for a reason. -/
inductive Check where
  | denied
  | allowed (reason : Option String)
  deriving DecidableEq, Repr

/-- The directives of a file, each with the line it ends on, in the order of the comments. -/
structure Index where
  directives : List (Nat × Directive)
  deriving DecidableEq, Repr

namespace Check

/-- The rule is excused. -/
def isAllowed : Check → Bool
  | .allowed _ => true
  | .denied => false

/-- The reason given. -/
def reason : Check → Option String
  | .allowed reason => reason
  | .denied => none

end Check

namespace Index

/-- The index of comments, each given with the line it ends on. -/
def ofComments (comments : List (Nat × String)) : Index :=
  ⟨comments.filterMap fun (line, text) => (Directive.parse? text).map (line, ·)⟩

/-- The comments of a tree in document order, each with the line of its last byte. -/
def comments (t : SyntaxTree) (lines : LineIndex) : List (Nat × String) :=
  (t.preorder.filter (·.kind == "comment")).map fun n =>
    ((lines.position t.source (max (n.span.stop - 1) n.span.start)).line, n.text)

/-- The index of a tree. -/
def ofTree (t : SyntaxTree) (lines : LineIndex) : Index := ofComments (comments t lines)

/-- There is no directive. -/
def isEmpty (index : Index) : Bool := index.directives.isEmpty

/-- The directive that counts for comments ending on a line: the last one. -/
def onLine? (index : Index) (line : Nat) : Option Directive :=
  (index.directives.reverse.find? (·.1 == line)).map (·.2)

/-- Whether a rule may fire on a line: the line above is asked first, then the line itself. -/
def check (index : Index) (line : Nat) (isRule : String → Bool) : Check :=
  let covering := fun l => (index.onLine? l).filter (·.covers isRule)
  match (covering (line - 1)).or (covering line) with
  | some d => .allowed d.reason
  | none => .denied

end Index

end TypeLint.Allow
