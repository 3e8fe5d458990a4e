import TypeLint.Proofs.Tree.Walks

/-!
# Document order

The walk to all children keeps a stack and stops when the stack is empty. `Node.pending` is that stack
after so many steps, and `pending_eq_nil_iff` says when it runs empty: after exactly as many steps as
there are nodes to see. So the walk ends by itself, and the number of steps that `reach` grants never
cuts it short.

What it sees is the pre-order as one says it: a node, then the pre-orders of its children. Nothing else
has this recursion (`eq_descendants`), because children come later than their parent. A child's
pre-order is one piece of its parent's, and so, going up, of the pre-order of the whole tree
(`descendants_isInfix`); as no node occurs twice there, the piece starts where the node stands.
-/

namespace TypeLint

namespace Node

variable {t : SyntaxTree}

/-! ## The stack runs empty -/

/-- What is on the stack of a walk after so many steps. -/
def pending (next : Node t → List (Node t)) : (steps : Nat) → (stack : List (Node t)) →
    List (Node t)
  | 0, stack => stack
  | _ + 1, [] => []
  | steps + 1, n :: rest => pending next steps (next n ++ rest)

/-- The stack is empty once every node of its tours has been seen, and not before. -/
theorem pending_eq_nil_iff {next : Node t → List (Node t)} (h : Descends next) :
    ∀ (steps : Nat) (stack : List (Node t)),
      pending next steps stack = [] ↔ (stack.flatMap (tour h)).length ≤ steps
  | 0, [] => by simp [pending]
  | 0, n :: rest => by
    rw [pending, List.flatMap_cons, tour_eq]
    simp
  | _ + 1, [] => by simp [pending]
  | steps + 1, n :: rest => by
    rw [pending, pending_eq_nil_iff h steps, List.flatMap_cons, tour_eq, List.flatMap_append,
      List.cons_append, List.length_cons]
    omega

/-- A walk from one node has an empty stack after as many steps as it sees nodes. -/
theorem pending_singleton_eq_nil_iff {next : Node t → List (Node t)} (h : Descends next) (n : Node t)
    (steps : Nat) : pending next steps [n] = [] ↔ (n.reach next).length ≤ steps := by
  rw [pending_eq_nil_iff h, List.flatMap_singleton, reach_eq_tour h]

/-- As many steps as it sees nodes are enough, and more add nothing. -/
theorem visit_singleton_eq {next : Node t → List (Node t)} (h : Descends next) {n : Node t}
    {steps : Nat} (hseen : (n.reach next).length ≤ steps) : visit next steps [n] = n.reach next := by
  rw [visit_eq_take h, List.flatMap_singleton, ← reach_eq_tour h, List.take_of_length_le hseen]

/-- A walk sees no node twice, so at most as many as the tree has. -/
theorem length_reach_le_size {next : Node t → List (Node t)} (h : Descends next) (n : Node t) :
    (n.reach next).length ≤ t.size := by
  rw [reach_eq_tour h]
  exact length_le_size (nodup_tour h n)

/-- As many steps as the tree has nodes empty the stack of any walk. -/
theorem pending_size_eq_nil {next : Node t → List (Node t)} (h : Descends next) (n : Node t) :
    pending next t.size [n] = [] :=
  (pending_singleton_eq_nil_iff h n t.size).2 (length_reach_le_size h n)

/-! ## The recursion -/

/-- The node comes first, then what is below its children, child by child. -/
theorem descendants_eq (n : Node t) :
    n.descendants = n :: n.children.flatMap descendants :=
  reach_eq_cons descends_children n

/-- Whatever lists a node and then the same for its children lists the descendants. -/
theorem eq_descendants {f : Node t → List (Node t)} (hf : ∀ n, f n = n :: n.children.flatMap f)
    (n : Node t) : f n = n.descendants := by
  have hchildren : n.children.flatMap f = n.children.flatMap descendants := by
    refine List.flatMap_congr fun c hc => ?_
    exact eq_descendants hf c
  rw [hf n, hchildren, ← descendants_eq]
termination_by t.size - n.id
decreasing_by
  have hlt := lt_of_mem_children hc
  have hsize : c.id < t.size := c.isLt
  omega

/-! ## One piece -/

theorem descendants_isInfix_of_mem_children {n c : Node t} (h : c ∈ n.children) :
    c.descendants <:+: n.descendants := by
  obtain ⟨before, after, hsplit⟩ := List.append_of_mem h
  refine ⟨n :: before.flatMap descendants, after.flatMap descendants, ?_⟩
  rw [descendants_eq n, hsplit, List.flatMap_append, List.flatMap_cons]
  simp

/-- What is below a node is one piece of what is below any node above it. -/
theorem descendants_isInfix {a n : Node t} (h : a.AtOrAbove n) :
    n.descendants <:+: a.descendants := by
  rcases h with rfl | h
  · exact List.infix_refl _
  · obtain ⟨p, hp, hap⟩ := mem_ancestors_iff.1 h
    exact (descendants_isInfix_of_mem_children (mem_children_iff.2 hp)).trans (descendants_isInfix hap)
termination_by n.id
decreasing_by exact parent_lt hp

end Node

namespace SyntaxTree

open Node

/-- Every node has its place in document order, and only one. -/
theorem map_id_preorder_perm (t : SyntaxTree) : (t.preorder.map (·.id)).Perm (List.range t.size) := by
  have hids : (t.preorder.map (·.id)).Nodup := by
    refine (nodup_descendants t.root).map fun a b heq => ?_
    cases a
    cases b
    cases heq
    rfl
  refine (List.perm_ext_iff_of_nodup hids List.nodup_range).2 fun i => ?_
  rw [List.mem_map, List.mem_range]
  constructor
  · rintro ⟨n, -, rfl⟩
    exact n.isLt
  · intro hi
    exact ⟨⟨i, hi⟩, mem_preorder _, rfl⟩

/-- The descendants of a node stand together, from the place of the node on. -/
theorem descendants_isPrefix_drop {t : SyntaxTree} (n : Node t) :
    n.descendants <+: t.preorder.drop (t.preorder.idxOf n) := by
  have habove : t.root.AtOrAbove n := mem_descendants_iff.1 (mem_preorder n)
  obtain ⟨front, back, hsplit⟩ := descendants_isInfix habove
  have hsplit : t.preorder = front ++ (n.descendants ++ back) := by
    rw [← List.append_assoc]
    exact hsplit.symm
  have hfront : n ∉ front := by
    intro hmem
    have hnodup : (front ++ (n.descendants ++ back)).Nodup := hsplit ▸ nodup_descendants t.root
    have hn : n ∈ n.descendants := mem_descendants_iff.2 (.refl n)
    exact List.disjoint_of_nodup_append hnodup hmem (List.mem_append_left _ hn)
  have hplace : t.preorder.idxOf n = front.length := by
    rw [hsplit, List.idxOf_append_of_notMem hfront, descendants_eq, List.cons_append,
      List.idxOf_cons_self, Nat.add_zero]
  rw [hplace, hsplit, List.drop_left]
  exact List.prefix_append _ _

end SyntaxTree

/-- **The walk over a tree is its pre-order, and complete.** From any node the stack runs empty after
as many steps as the walk sees nodes, and allowing more steps changes nothing; from the root it sees
every node once. The walk is the only function that lists a node and then does the same for the children
in their order. What it sees from a node stands together in the walk from the root, where that node
stands, and it is the node with everything that has it among the nodes above. -/
theorem preorder_lists_every_node (t : SyntaxTree) :
    (∀ (n : Node t) (steps : Nat),
      (Node.pending Node.children steps [n] = [] ↔ n.descendants.length ≤ steps) ∧
      (n.descendants.length ≤ steps → Node.visit Node.children steps [n] = n.descendants)) ∧
    (t.preorder.map (·.id)).Perm (List.range t.size) ∧
    (∀ f : Node t → List (Node t),
      (∀ n, f n = n :: n.children.flatMap f) ↔ f = Node.descendants) ∧
    t.preorder = t.root :: t.root.children.flatMap Node.descendants ∧
    ∀ n : Node t, n.descendants <+: t.preorder.drop (t.preorder.idxOf n) ∧
      ∀ m, m ∈ n.descendants ↔ m = n ∨ n ∈ m.ancestors := by
  refine ⟨fun n steps => ⟨Node.pending_singleton_eq_nil_iff Node.descends_children n steps,
      Node.visit_singleton_eq Node.descends_children⟩,
    t.map_id_preorder_perm, fun f => ⟨fun hf => ?_, fun hf => ?_⟩, t.root.descendants_eq,
    fun n => ⟨SyntaxTree.descendants_isPrefix_drop n, fun m => ?_⟩⟩
  · exact funext fun n => Node.eq_descendants hf n
  · rw [hf]
    exact Node.descendants_eq
  · rw [Node.mem_descendants_iff, Node.AtOrAbove, eq_comm]

end TypeLint
