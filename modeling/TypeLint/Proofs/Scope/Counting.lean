import Mathlib
import TypeLint.Proofs.Scope.References
import TypeLint.Proofs.Tree.Preorder

/-!
# Counting references by recursion and with a stack

How often a name is referred to below a node is said by a recursion: once if the node itself refers to
it, and as often as below those named children that do not hide it. `countTypeRefs_eq` is that recursion,
and nothing else satisfies it (`eq_countTypeRefs`), because children come later than their parent.

`RefCount` is the count as a loop: it takes the last node from a stack, passes by a node that hides the
name unless it is the one the count started at, and else puts the children on the stack. What is counted
and what is still due for the nodes on the stack is at any time the count as a whole (`Sound`), and the
stack is empty after as many steps as the tree has nodes (`run_eq`).
-/

namespace TypeLint

variable {t : SyntaxTree}

/-! ## The recursion -/

namespace Node

theorem descends_openTo (name : String) : Descends (openTo (t := t) name) := by
  rw [openTo_eq]
  exact descends_filter _

/-- The references at a node and below it are the node, if it is one, and those below the named
children that do not hide the name. -/
theorem countTypeRefs_eq (n : Node t) (name : String) :
    n.countTypeRefs name =
      (if n.refersTo name then 1 else 0) + ((n.openTo name).map (·.countTypeRefs name)).sum := by
  rw [countTypeRefs, reach_eq_cons (descends_openTo name), List.countP_cons, List.countP_flatMap,
    Nat.add_comm]
  rfl

/-- Whatever counts by this recursion counts the references. -/
theorem eq_countTypeRefs {name : String} {f : Node t → Nat}
    (hf : ∀ n, f n = (if n.refersTo name then 1 else 0) + ((n.openTo name).map f).sum)
    (n : Node t) : f n = n.countTypeRefs name := by
  have hbelow : (n.openTo name).map f = (n.openTo name).map (·.countTypeRefs name) := by
    refine List.map_congr_left fun c hc => ?_
    exact eq_countTypeRefs hf c
  rw [hf n, hbelow, ← countTypeRefs_eq]
termination_by t.size - n.id
decreasing_by
  have hlt := lt_of_mem_children ((descends_openTo name).children hc)
  have hsize : c.id < t.size := c.isLt
  omega

theorem refersTo_iff {n : Node t} {name : String} :
    n.refersTo name = true ↔ n.kind = "type_identifier" ∧ n.text = name ∧
      n.parent.map (·.kind) ≠ some "nested_type_identifier" := by
  rw [refersTo, Bool.and_eq_true, Bool.and_eq_true, beq_iff_eq, beq_iff_eq, bne_iff_ne, and_assoc]

end Node

/-! ## The stack -/

/-- A count in progress: the nodes still to be looked at, the last one first, and the references so
far. -/
structure RefCount (t : SyntaxTree) where
  stack : List (Node t)
  count : Nat

namespace RefCount

open Node

/-- A node that hides the name is passed by, but not the one at which the count starts. -/
def passedBy (root : Node t) (name : String) (n : Node t) : Bool := n != root && n.shadows name

/-- Looks at the last node of the stack. -/
def step (root : Node t) (name : String) : RefCount t → RefCount t
  | ⟨[], count⟩ => ⟨[], count⟩
  | ⟨n :: rest, count⟩ =>
    if passedBy root name n then ⟨rest, count⟩
    else ⟨n.namedChildren.reverse ++ rest, count + if n.refersTo name then 1 else 0⟩

/-- Looks at so many nodes. -/
def run (root : Node t) (name : String) : (steps : Nat) → RefCount t → RefCount t
  | 0, s => s
  | steps + 1, s => run root name steps (step root name s)

/-- The references that a node on the stack still adds. -/
def due (root : Node t) (name : String) (n : Node t) : Nat :=
  if passedBy root name n then 0 else n.countTypeRefs name

/-- What is counted and what is due come to the references at the root and below it; all nodes on the
stack are the root or come later. -/
structure Sound (root : Node t) (name : String) (s : RefCount t) : Prop where
  later : ∀ n ∈ s.stack, root.id ≤ n.id
  total : s.count + (s.stack.map (due root name)).sum = root.countTypeRefs name

theorem sound_start (root : Node t) (name : String) : Sound root name ⟨[root], 0⟩ where
  later := fun n hn => Nat.le_of_eq (by rw [List.mem_singleton.1 hn])
  total := by
    have hroot : passedBy root name root = false := by simp [passedBy]
    simp [due, hroot]

/-- What is due for nodes other than the root are the references below those that do not hide the
name. -/
theorem sum_due {root : Node t} {name : String} :
    ∀ {nodes : List (Node t)}, (∀ n ∈ nodes, n ≠ root) →
      (nodes.map (due root name)).sum =
        ((nodes.filter (!·.shadows name)).map (·.countTypeRefs name)).sum
  | [], _ => rfl
  | n :: nodes, h => by
    rw [List.forall_mem_cons] at h
    have ih : (nodes.map (due root name)).sum = _ := sum_due h.2
    have hroot : (n != root) = true := bne_iff_ne.2 h.1
    rw [List.map_cons, List.sum_cons, ih, List.filter_cons, due, passedBy, hroot, Bool.true_and]
    cases n.shadows name with
    | true => exact Nat.zero_add _
    | false => rfl

theorem Sound.step {root : Node t} {name : String} {s : RefCount t} (h : Sound root name s) :
    Sound root name (step root name s) := by
  obtain ⟨stack, count⟩ := s
  cases stack with
  | nil => exact h
  | cons n rest =>
    obtain ⟨hlater, htotal⟩ := h
    rw [List.forall_mem_cons] at hlater
    rw [List.map_cons, List.sum_cons] at htotal
    rw [RefCount.step]
    split
    next hpassed =>
      rw [due, if_pos hpassed, Nat.zero_add] at htotal
      exact ⟨hlater.2, htotal⟩
    next hpassed =>
      rw [due, if_neg hpassed, countTypeRefs_eq] at htotal
      -- the children come later than the node, so none of them is the root
      have hchildren : ∀ c ∈ n.namedChildren, root.id < c.id := by
        intro c hc
        have hlt := lt_of_mem_children (mem_children_of_mem_namedChildren hc)
        omega
      have hsum : (n.namedChildren.map (due root name)).sum =
          ((n.openTo name).map (·.countTypeRefs name)).sum := by
        refine sum_due fun c hc heq => ?_
        have hlt := hchildren c hc
        rw [heq] at hlt
        omega
      constructor
      · intro c hc
        rcases List.mem_append.1 hc with hc | hc
        · exact Nat.le_of_lt (hchildren c (List.mem_reverse.1 hc))
        · exact hlater.2 c hc
      · rw [← hsum] at htotal
        rw [← htotal, List.map_append, List.sum_append, List.map_reverse, List.sum_reverse]
        simp only [Nat.add_assoc]

theorem Sound.run {root : Node t} {name : String} :
    ∀ (steps : Nat) {s : RefCount t}, Sound root name s → Sound root name (run root name steps s)
  | 0, _, h => h
  | steps + 1, _, h => h.step.run steps

/-- The nodes that are put on the stack for a node. -/
def followers (root : Node t) (name : String) (n : Node t) : List (Node t) :=
  if passedBy root name n then [] else n.namedChildren.reverse

theorem descends_followers (root : Node t) (name : String) : Descends (followers root name) :=
  descends_reversed.cut _

/-- The stack is that of a walk to the followers. -/
theorem stack_run (root : Node t) (name : String) :
    ∀ (steps : Nat) (s : RefCount t),
      (run root name steps s).stack = pending (followers root name) steps s.stack
  | 0, _ => rfl
  | steps + 1, ⟨[], count⟩ => by
    rw [run, stack_run root name steps]
    cases steps <;> rfl
  | steps + 1, ⟨n :: rest, count⟩ => by
    rw [run, stack_run root name steps, pending, step, followers]
    split
    next => rfl
    next => rfl

/-- As many steps as the tree has nodes count all references and leave nothing to look at. -/
theorem run_eq (root : Node t) (name : String) {steps : Nat} (h : t.size ≤ steps) :
    run root name steps ⟨[root], 0⟩ = ⟨[], root.countTypeRefs name⟩ := by
  have hdescends := descends_followers root name
  have hseen : (root.reach (followers root name)).length ≤ steps :=
    Nat.le_trans (length_reach_le_size hdescends root) h
  have hempty : (run root name steps ⟨[root], 0⟩).stack = [] := by
    rw [stack_run]
    exact (pending_singleton_eq_nil_iff hdescends root steps).2 hseen
  have htotal := ((sound_start root name).run steps).total
  generalize run root name steps ⟨[root], 0⟩ = s at hempty htotal
  obtain ⟨stack, count⟩ := s
  cases hempty
  rw [← htotal]
  rfl

end RefCount

/-! ## What the index adds up -/

/-- The references in a signature are those in its parts: the parameters, the return type, and what the
other type parameters of the list are bound by or default to. -/
theorem TypeParameterUse.Of.signatureRefs_eq_sum {list : Node t} {use : TypeParameterUse t}
    (h : use.Of list) :
    use.signatureRefs =
      use.owner.countUnder "parameters" use.name + use.owner.countUnder "return_type" use.name +
        ((list.typeParameters.filter (· != use.param)).map fun p =>
          p.countUnder "constraint" use.name + p.countUnder "value" use.name).sum := by
  rw [h.signatureRefs_eq, List.sum, List.foldr_map]
  rfl

/-- **References are counted by their recursion.** The count is the only function that takes a node for
one reference if it spells the name, unqualified, and adds what it gives for the named children that do
not declare a type parameter of this name. A stack finds the same number in at most as many steps as the
tree has nodes. So the entry of a type parameter in the index has the references in the parameters, in
the return type and in the constraints and defaults of the other type parameters of its list, and those
in the return type are part of them. -/
theorem references_counted_recursively (t : SyntaxTree) :
    (∀ (name : String) (f : Node t → Nat),
      (∀ n, f n =
        (if n.kind = "type_identifier" ∧ n.text = name ∧
            n.parent.map (·.kind) ≠ some "nested_type_identifier" then 1 else 0) +
          ((n.namedChildren.filter (!·.shadows name)).map f).sum) ↔
        f = (·.countTypeRefs name)) ∧
    (∀ (root : Node t) (name : String) (steps : Nat), t.size ≤ steps →
      RefCount.run root name steps ⟨[root], 0⟩ = ⟨[], root.countTypeRefs name⟩) ∧
    ∀ use ∈ (ScopeIndex.ofTree t).typeParameters, ∃ list,
      use.owner.isFunction = true ∧ use.owner.child? "type_parameters" = some list ∧
      use.param ∈ list.typeParameters ∧ (use.param.child? "name").map (·.text) = some use.name ∧
      use.signatureRefs =
        use.owner.countUnder "parameters" use.name + use.owner.countUnder "return_type" use.name +
          ((list.typeParameters.filter (· != use.param)).map fun p =>
            p.countUnder "constraint" use.name + p.countUnder "value" use.name).sum ∧
      use.returnRefs = use.owner.countUnder "return_type" use.name ∧
      use.returnRefs ≤ use.signatureRefs := by
  refine ⟨fun name f => ?_, fun root name steps => RefCount.run_eq root name,
    fun use huse => ?_⟩
  · simp only [← Node.refersTo_iff]
    constructor
    · intro hf
      exact funext fun n => Node.eq_countTypeRefs hf n
    · rintro rfl n
      exact n.countTypeRefs_eq name
  · obtain ⟨owner, -, hmem⟩ := List.mem_flatMap.1 huse
    obtain ⟨-, list, hof⟩ := Node.of_mem_typeParameterUses hmem
    have hsignature := hof.signatureRefs_eq_sum
    have hreturn := hof.returnRefs_eq
    exact ⟨list, hof.isFunction, hof.list_eq, hof.param_mem, hof.name_eq, hsignature, hreturn,
      by omega⟩

end TypeLint
