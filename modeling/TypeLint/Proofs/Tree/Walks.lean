import Mathlib.Data.List.Nodup
import Mathlib.Data.List.Perm.Subperm
import Mathlib.Logic.Relation
import TypeLint.Proofs.Tree.Building

/-!
# A walk sees every node once

`Node.visit` keeps the nodes still to be seen on a stack and counts its steps down. `Node.tour` is the
walk as one says it: a node, then the tours of what follows from it, one after the other. A run of
`visit` is the tour of its stack, cut off after so many nodes (`visit_eq_take`).

A walk that goes from a node to different children of it (`Descends`) never comes to a node twice,
because no node lies below two children of one node (`eq_of_atOrAbove`). So it sees at most as many
nodes as there are, and the steps that `reach` grants are enough: `reach_eq_cons` is the recursion and
`mem_reach_iff` says which nodes are seen. The walk to all children sees what lies below
(`mem_descendants_iff`), each node once (`nodup_descendants`), and from the root it sees every node.
-/

namespace TypeLint.Node

variable {t : SyntaxTree}

/-! ## Above and below -/

/-- The node is `n` or lies above it. -/
def AtOrAbove (a n : Node t) : Prop := a = n ∨ a ∈ n.ancestors

theorem AtOrAbove.refl (n : Node t) : n.AtOrAbove n := Or.inl rfl

/-- What is above a node is its parent or above that. -/
theorem mem_ancestors_iff {a n : Node t} :
    a ∈ n.ancestors ↔ ∃ p, n.parent = some p ∧ a.AtOrAbove p := by
  cases hp : n.parent with
  | none => simp [ancestors_of_parent_none hp]
  | some p =>
    rw [ancestors_of_parent_some hp, List.mem_cons]
    constructor
    · intro h
      exact ⟨p, rfl, h⟩
    · intro h
      obtain ⟨q, hq, h⟩ := h
      cases hq
      exact h

/-- Nodes above come earlier. -/
theorem AtOrAbove.le {a n : Node t} (h : a.AtOrAbove n) : a.id ≤ n.id := by
  rcases h with rfl | h
  · exact Nat.le_refl _
  · obtain ⟨p, hp, h⟩ := mem_ancestors_iff.1 h
    have hlt := parent_lt hp
    have hle := h.le
    omega
termination_by n.id
decreasing_by exact parent_lt hp

theorem AtOrAbove.trans {a b n : Node t} (hab : a.AtOrAbove b) (hbn : b.AtOrAbove n) :
    a.AtOrAbove n := by
  rcases hbn with rfl | hbn
  · exact hab
  · obtain ⟨p, hp, hbp⟩ := mem_ancestors_iff.1 hbn
    exact Or.inr (mem_ancestors_iff.2 ⟨p, hp, hab.trans hbp⟩)
termination_by n.id
decreasing_by exact parent_lt hp

/-- Of two nodes at or above a third one is at or above the other. -/
theorem AtOrAbove.comparable {a b n : Node t} (ha : a.AtOrAbove n) (hb : b.AtOrAbove n) :
    a.AtOrAbove b ∨ b.AtOrAbove a := by
  rcases ha with rfl | ha
  · exact Or.inr hb
  · rcases hb with rfl | hb
    · exact Or.inl (Or.inr ha)
    · obtain ⟨p, hp, hap⟩ := mem_ancestors_iff.1 ha
      obtain ⟨q, hq, hbq⟩ := mem_ancestors_iff.1 hb
      rw [hp] at hq
      cases hq
      exact hap.comparable hbq
termination_by n.id
decreasing_by exact parent_lt hp

theorem AtOrAbove.of_mem_children {n c : Node t} (h : c ∈ n.children) : n.AtOrAbove c :=
  Or.inr (mem_ancestors_iff.2 ⟨n, mem_children_iff.1 h, .refl n⟩)

/-- Two children of one node that are at or above the same node are the same child. -/
theorem eq_of_atOrAbove {n c d m : Node t} (hc : c ∈ n.children) (hd : d ∈ n.children)
    (hcm : c.AtOrAbove m) (hdm : d.AtOrAbove m) : c = d := by
  -- a child at the end of the path has the other one above its parent, where nothing is a child of it
  have hend : ∀ {a b : Node t}, a ∈ n.children → b ∈ n.children → b ∉ a.ancestors := by
    intro a b ha hb hmem
    obtain ⟨p, hp, hbp⟩ := mem_ancestors_iff.1 hmem
    rw [mem_children_iff.1 ha] at hp
    cases hp
    have hle := hbp.le
    have hlt := lt_of_mem_children hb
    omega
  rcases hcm with rfl | hcm
  · rcases hdm with rfl | hdm
    · rfl
    · exact absurd hdm (hend hc hd)
  · rcases hdm with rfl | hdm
    · exact absurd hcm (hend hd hc)
    · obtain ⟨p, hp, hcp⟩ := mem_ancestors_iff.1 hcm
      obtain ⟨q, hq, hdq⟩ := mem_ancestors_iff.1 hdm
      rw [hp] at hq
      cases hq
      exact eq_of_atOrAbove hc hd hcp hdq
termination_by m.id
decreasing_by exact parent_lt hp

theorem nodup_children (n : Node t) : n.children.Nodup := by
  refine List.Nodup.of_map (·.id) ?_
  rw [map_id_children]
  exact List.nodup_range.filter _

/-! ## The tour -/

/-- The walk goes from a node to children of it, and to none twice. -/
structure Descends (next : Node t → List (Node t)) : Prop where
  children : ∀ {n c : Node t}, c ∈ next n → c ∈ n.children
  nodup : ∀ n, (next n).Nodup

/-- The order in which the children are taken does not matter. -/
theorem Descends.of_perm {next next' : Node t → List (Node t)} (h : Descends next)
    (hperm : ∀ n, (next' n).Perm (next n)) : Descends next' :=
  ⟨fun hc => h.children ((hperm _).mem_iff.1 hc), fun n => (hperm n).nodup_iff.2 (h.nodup n)⟩

variable {next : Node t → List (Node t)}

/-- A walk that leaves some children out. -/
theorem Descends.filter (h : Descends next) (q : Node t → Bool) :
    Descends fun n => (next n).filter q :=
  ⟨fun hc => h.children (List.mem_filter.1 hc).1, fun n => (h.nodup n).filter q⟩

/-- A walk that goes no further from some nodes. -/
theorem Descends.cut (h : Descends next) (closed : Node t → Bool) :
    Descends fun n => if closed n then [] else next n := by
  constructor
  · intro n c hc
    split at hc
    next => cases hc
    next => exact h.children hc
  · intro n
    split
    next => exact List.nodup_nil
    next => exact h.nodup n

/-- The node, then the tours of what follows from it. -/
def tour (h : Descends next) (n : Node t) : List (Node t) :=
  n :: (next n).attach.flatMap fun c => tour h c.1
termination_by t.size - n.id
decreasing_by
  have hlt := lt_of_mem_children (h.children c.2)
  have hsize : c.1.id < t.size := c.1.isLt
  omega

theorem tour_eq (h : Descends next) (n : Node t) :
    tour h n = n :: (next n).flatMap (tour h) := by
  have hval : (next n).attach.flatMap (fun c => tour h c.1) =
      ((next n).attach.map (·.1)).flatMap (tour h) :=
    (List.flatMap_map _ _ _).symm
  rw [tour, hval, List.attach_map_subtype_val]

theorem atOrAbove_of_mem_tour (h : Descends next) {n m : Node t} (hm : m ∈ tour h n) :
    n.AtOrAbove m := by
  rw [tour_eq] at hm
  rcases List.mem_cons.1 hm with rfl | hm
  · exact .refl _
  · obtain ⟨c, hc, hm⟩ := List.mem_flatMap.1 hm
    exact (AtOrAbove.of_mem_children (h.children hc)).trans (atOrAbove_of_mem_tour h hm)
termination_by t.size - n.id
decreasing_by
  have hlt := lt_of_mem_children (h.children hc)
  have hsize : c.id < t.size := c.isLt
  omega

/-- A tour comes to no node twice. -/
theorem nodup_tour (h : Descends next) (n : Node t) : (tour h n).Nodup := by
  rw [tour_eq, List.nodup_cons, List.nodup_flatMap]
  refine ⟨fun hn => ?_, fun c hc => nodup_tour h c, ?_⟩
  · obtain ⟨c, hc, hn⟩ := List.mem_flatMap.1 hn
    have hle := (atOrAbove_of_mem_tour h hn).le
    have hlt := lt_of_mem_children (h.children hc)
    omega
  · refine (h.nodup n).imp_of_mem fun {c d} hc hd hne m hcm hdm => hne ?_
    exact eq_of_atOrAbove (h.children hc) (h.children hd) (atOrAbove_of_mem_tour h hcm)
      (atOrAbove_of_mem_tour h hdm)
termination_by t.size - n.id
decreasing_by
  have hlt := lt_of_mem_children (h.children hc)
  have hsize : c.id < t.size := c.isLt
  omega

/-- Different nodes are at most as many as there are. -/
theorem length_le_size {nodes : List (Node t)} (h : nodes.Nodup) : nodes.length ≤ t.size := by
  have hids : (nodes.map (·.id)).Nodup := h.map fun a b heq => by
    cases a
    cases b
    cases heq
    rfl
  have hrange : nodes.map (·.id) ⊆ List.range t.size := by
    intro i hi
    obtain ⟨n, -, rfl⟩ := List.mem_map.1 hi
    exact List.mem_range.2 n.isLt
  have hlength := (List.subperm_of_subset hids hrange).length_le
  rwa [List.length_map, List.length_range] at hlength

/-! ## Walks are tours -/

/-- A walk of so many steps is the front part of the tours of its stack. -/
theorem visit_eq_take (h : Descends next) :
    ∀ (steps : Nat) (stack : List (Node t)),
      visit next steps stack = (stack.flatMap (tour h)).take steps
  | 0, _ => by rw [visit, List.take_zero]
  | _ + 1, [] => by
    rw [List.flatMap_nil, List.take_nil]
    rfl
  | steps + 1, n :: rest => by
    rw [visit, visit_eq_take h steps, List.flatMap_cons, tour_eq, List.cons_append,
      List.take_succ_cons, List.flatMap_append]

theorem reach_eq_tour (h : Descends next) (n : Node t) : n.reach next = tour h n := by
  rw [reach, visit_eq_take h, List.flatMap_singleton,
    List.take_of_length_le (length_le_size (nodup_tour h n))]

/-- The walk from a node sees it, and then what the walks from the following nodes see. -/
theorem reach_eq_cons (h : Descends next) (n : Node t) :
    n.reach next = n :: (next n).flatMap (·.reach next) := by
  rw [reach_eq_tour h, tour_eq]
  congr 2
  funext c
  rw [reach_eq_tour h]

/-- The walk sees the nodes that can be come to step by step. -/
theorem mem_reach_iff (h : Descends next) {n m : Node t} :
    m ∈ n.reach next ↔ Relation.ReflTransGen (fun a b => b ∈ next a) n m := by
  constructor
  · intro hm
    refine forall_mem_visit (P := Relation.ReflTransGen (fun a b => b ∈ next a) n) ?_ t.size [n] ?_
      m hm
    · intro a ha b hb
      exact ha.tail hb
    · intro a ha
      rw [List.mem_singleton.1 ha]
  · intro hm
    induction hm using Relation.ReflTransGen.head_induction_on with
    | refl =>
      rw [reach_eq_cons h]
      exact List.mem_cons_self
    | head hab _ ih =>
      rw [reach_eq_cons h]
      exact List.mem_cons_of_mem _ (List.mem_flatMap.2 ⟨_, hab, ih⟩)

/-! ## Everything below a node -/

theorem descends_children : Descends (children (t := t)) := ⟨fun h => h, nodup_children⟩

theorem nodup_descendants (n : Node t) : n.descendants.Nodup := by
  rw [descendants, reach_eq_tour descends_children]
  exact nodup_tour _ n

/-- The descendants of a node are the nodes that it is at or above. -/
theorem mem_descendants_iff {n m : Node t} : m ∈ n.descendants ↔ n.AtOrAbove m := by
  constructor
  · intro hm
    rw [descendants, reach_eq_tour descends_children] at hm
    exact atOrAbove_of_mem_tour _ hm
  · intro h
    rw [descendants, mem_reach_iff descends_children]
    rcases h with rfl | h
    · exact .refl
    · obtain ⟨p, hp, hnp⟩ := mem_ancestors_iff.1 h
      have hmem := mem_descendants_iff.2 hnp
      rw [descendants, mem_reach_iff descends_children] at hmem
      exact hmem.tail (mem_children_iff.2 hp)
termination_by m.id
decreasing_by exact parent_lt hp

/-! ## Walks that pass by some children -/

/-- The node lies on the way down from `root` to `d`, where it may end but not start. -/
def OnTheWay (root d a : Node t) : Prop := root ∈ a.ancestors ∧ a.AtOrAbove d

/-- From further up there is more on the way. -/
theorem OnTheWay.widen {root r d a : Node t} (hroot : root.AtOrAbove r) (h : OnTheWay r d a) :
    OnTheWay root d a := by
  obtain ⟨p, hp, hr⟩ := mem_ancestors_iff.1 h.1
  exact ⟨mem_ancestors_iff.2 ⟨p, hp, hroot.trans hr⟩, h.2⟩

/-- On the way through a child stand that child and what is on the way from it. -/
theorem OnTheWay.of_mem_children {root c d a : Node t} (hc : c ∈ root.children)
    (hcd : c.AtOrAbove d) (h : OnTheWay root d a) : a = c ∨ OnTheWay c d a := by
  obtain ⟨q, hq, hrq⟩ := mem_ancestors_iff.1 h.1
  rcases h.2.comparable hcd with hac | rfl | hca
  · rcases hac with rfl | hac
    · exact Or.inl rfl
    · -- above the child stand the root and what is above it, and nothing below it
      obtain ⟨p, hp, hap⟩ := mem_ancestors_iff.1 hac
      rw [mem_children_iff.1 hc] at hp
      cases hp
      have hlt := parent_lt hq
      have hle := hrq.le
      have hle' := hap.le
      omega
  · exact Or.inl rfl
  · exact Or.inr ⟨hca, h.2⟩

/-- On the way to a node stand that node and what is on the way to its parent. -/
theorem onTheWay_iff {root d p a : Node t} (hp : d.parent = some p) (hroot : root.AtOrAbove p) :
    OnTheWay root d a ↔ a = d ∨ OnTheWay root p a := by
  have hd : root ∈ d.ancestors := mem_ancestors_iff.2 ⟨p, hp, hroot⟩
  constructor
  · intro h
    obtain ⟨ha, rfl | had⟩ := h
    · exact Or.inl rfl
    · obtain ⟨q, hq, haq⟩ := mem_ancestors_iff.1 had
      rw [hp] at hq
      cases hq
      exact Or.inr ⟨ha, haq⟩
  · intro h
    rcases h with rfl | h
    · exact ⟨hd, .refl _⟩
    · exact ⟨h.1, Or.inr (mem_ancestors_iff.2 ⟨p, hp, h.2⟩)⟩

theorem descends_filter (q : Node t → Bool) : Descends fun n : Node t => n.children.filter q :=
  descends_children.filter q

theorem descends_namedChildren : Descends (namedChildren (t := t)) := descends_filter _

/-- A stack has the named children last first. -/
theorem descends_reversed : Descends fun n : Node t => n.namedChildren.reverse :=
  descends_namedChildren.of_perm fun n => n.namedChildren.reverse_perm

/-- A walk to the children that pass a test sees the nodes with nothing else on the way. -/
theorem mem_reach_filter_iff {q : Node t → Bool} {root d : Node t} :
    d ∈ root.reach (fun n => n.children.filter q) ↔
      root.AtOrAbove d ∧ ∀ a, OnTheWay root d a → q a = true := by
  rw [mem_reach_iff (descends_filter q)]
  constructor
  · intro h
    induction h with
    | refl =>
      refine ⟨.refl _, fun a ha => ?_⟩
      -- nothing lies between a node and itself
      obtain ⟨p, hp, hr⟩ := mem_ancestors_iff.1 ha.1
      have hlt := parent_lt hp
      have hle := hr.le
      have hle' := ha.2.le
      omega
    | tail _ hstep ih =>
      obtain ⟨hchild, hq⟩ := List.mem_filter.1 hstep
      refine ⟨ih.1.trans (.of_mem_children hchild), fun a ha => ?_⟩
      rcases (onTheWay_iff (mem_children_iff.1 hchild) ih.1).1 ha with rfl | ha
      · exact hq
      · exact ih.2 a ha
  · intro h
    obtain ⟨rfl | habove, hall⟩ := h
    · exact .refl
    · obtain ⟨p, hp, hroot⟩ := mem_ancestors_iff.1 habove
      have hparent := mem_reach_filter_iff.2
        ⟨hroot, fun a ha => hall a ((onTheWay_iff hp hroot).2 (Or.inr ha))⟩
      rw [mem_reach_iff (descends_filter q)] at hparent
      have hd := hall d ((onTheWay_iff hp hroot).2 (Or.inl rfl))
      exact hparent.tail (List.mem_filter.2 ⟨mem_children_iff.2 hp, hd⟩)
termination_by d.id
decreasing_by exact parent_lt hp

end TypeLint.Node

namespace TypeLint

/-- Every node of a tree has its place in document order. -/
theorem SyntaxTree.mem_preorder {t : SyntaxTree} (n : Node t) : n ∈ t.preorder := by
  refine Node.mem_descendants_iff.2 ?_
  rcases n.root_mem_ancestors with rfl | h
  · exact .refl _
  · exact Or.inr h

end TypeLint
