import TypeLint.Tree.Basic

/-!
# Walks over a tree

`ancestors` climbs from a node to the root. Every walk downwards is `visit`: it keeps the nodes
still to be seen on a stack, takes the first, and puts those that follow from it on top. A walk that
only ever goes from a node to children of it ends within as many steps as the tree has nodes, which
is the step count that `reach` grants. `descendants` is the walk to all children.
-/

namespace TypeLint

namespace Node

variable {t : SyntaxTree}

/-- The nodes above this one, from its parent to the root. -/
def ancestors (n : Node t) : List (Node t) :=
  match _h : n.parent with
  | none => []
  | some p => p :: p.ancestors
termination_by n.id
decreasing_by exact parent_lt _h

theorem ancestors_of_parent_none {n : Node t} (h : n.parent = none) : n.ancestors = [] := by
  rw [ancestors]
  split
  · rfl
  · next p hp => rw [h] at hp; cases hp

theorem ancestors_of_parent_some {n p : Node t} (h : n.parent = some p) :
    n.ancestors = p :: p.ancestors := by
  rw [ancestors]
  split
  · next hn => rw [h] at hn; cases hn
  · next q hq => rw [h] at hq; cases hq; rfl

/-- Sees the nodes on the stack, first to last, and after each node those that `next` gives for it,
for at most `steps` nodes. -/
def visit (next : Node t → List (Node t)) : (steps : Nat) → (stack : List (Node t)) → List (Node t)
  | 0, _ => []
  | _, [] => []
  | steps + 1, n :: rest => n :: visit next steps (next n ++ rest)

/-- The nodes that the walk by `next` sees from `n` on, each before those that follow from it. -/
def reach (n : Node t) (next : Node t → List (Node t)) : List (Node t) :=
  visit next t.size [n]

/-- This node and everything below it, each node before its children. -/
def descendants (n : Node t) : List (Node t) := n.reach children

end Node

/-- Every node of the tree in document order. -/
def SyntaxTree.preorder (t : SyntaxTree) : List (Node t) := t.root.descendants

end TypeLint
