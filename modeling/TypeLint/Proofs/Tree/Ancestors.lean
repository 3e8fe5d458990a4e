import Mathlib.Data.List.TakeWhile
import TypeLint.Proofs.Tree.Walks

/-!
# What is met on the way up

Questions about the surroundings of a node are searches in the list of nodes above it: the first that
passes a test, or one that is met before some other node stops the search. Between a node and one above
it stand the nodes that are above the first and below the second, and these are exactly the nodes that
come earlier in the list (`mem_front_iff`). So both searches can be told without a list:
`find?_ancestors_eq_some_iff` and `any_takeWhile_ancestors_iff`.
-/

namespace TypeLint.Node

variable {t : SyntaxTree}

/-- The node is the nearest one above `n` that passes the test. -/
structure Nearest (p : Node t → Bool) (n a : Node t) : Prop where
  above : a ∈ n.ancestors
  passes : p a = true
  between : ∀ c ∈ n.ancestors, a ∈ c.ancestors → p c = false

variable {p q : Node t → Bool} {a c : Node t}

instance {n : Node t} : Decidable (Nearest p n a) :=
  decidable_of_iff
    (a ∈ n.ancestors ∧ p a = true ∧ ∀ c ∈ n.ancestors, a ∈ c.ancestors → p c = false)
    ⟨fun h => ⟨h.1, h.2.1, h.2.2⟩, fun h => ⟨h.above, h.passes, h.between⟩⟩

/-- A node above comes earlier. -/
theorem lt_of_mem_ancestors {n : Node t} (h : a ∈ n.ancestors) : a.id < n.id := by
  obtain ⟨k, hk, hak⟩ := mem_ancestors_iff.1 h
  have hle := hak.le
  have hlt := parent_lt hk
  omega

theorem mem_ancestors_trans {n : Node t} (hac : a ∈ c.ancestors) (hcn : c ∈ n.ancestors) :
    a ∈ n.ancestors := by
  obtain ⟨k, hk, hck⟩ := mem_ancestors_iff.1 hcn
  exact mem_ancestors_iff.2 ⟨k, hk, AtOrAbove.trans (Or.inr hac) hck⟩

/-- What comes before a node in the list of those above stands between. -/
theorem mem_front_iff {n : Node t} {front back : List (Node t)}
    (h : n.ancestors = front ++ a :: back) : c ∈ front ↔ c ∈ n.ancestors ∧ a ∈ c.ancestors := by
  cases hk : n.parent with
  | none =>
    rw [ancestors_of_parent_none hk] at h
    cases front <;> cases h
  | some k =>
    rw [ancestors_of_parent_some hk] at h ⊢
    cases front with
    | nil =>
      obtain ⟨rfl, -⟩ := List.cons.inj h
      simp only [List.not_mem_nil, false_iff, not_and]
      intro hc ha
      have hle : c.id ≤ k.id := AtOrAbove.le (List.mem_cons.1 hc)
      have hlt := lt_of_mem_ancestors ha
      omega
    | cons b front =>
      obtain ⟨rfl, hrest⟩ := List.cons.inj h
      have ha : a ∈ k.ancestors := by
        rw [hrest]
        exact List.mem_append_right _ List.mem_cons_self
      rw [List.mem_cons, List.mem_cons, mem_front_iff hrest]
      constructor
      · rintro (rfl | hc)
        · exact ⟨Or.inl rfl, ha⟩
        · exact ⟨Or.inr hc.1, hc.2⟩
      · rintro ⟨rfl | hc, hac⟩
        · exact Or.inl rfl
        · exact Or.inr ⟨hc, hac⟩
termination_by n.id
decreasing_by exact parent_lt hk

variable {n : Node t}

/-- The first that passes is the nearest. -/
theorem find?_ancestors_eq_some_iff : n.ancestors.find? p = some a ↔ Nearest p n a := by
  rw [List.find?_eq_some_iff_append]
  constructor
  · rintro ⟨hp, front, back, hsplit, hfront⟩
    refine ⟨?_, hp, fun c hc hac => ?_⟩
    · rw [hsplit]
      exact List.mem_append_right _ List.mem_cons_self
    · have hpass := hfront c ((mem_front_iff hsplit).2 ⟨hc, hac⟩)
      rwa [Bool.not_eq_true'] at hpass
  · intro h
    obtain ⟨front, back, hsplit⟩ := List.append_of_mem h.above
    refine ⟨h.passes, front, back, hsplit, fun c hc => ?_⟩
    obtain ⟨hcn, hac⟩ := (mem_front_iff hsplit).1 hc
    rw [h.between c hcn hac]
    rfl

/-- The search that goes on while a test is passed finds what has only such nodes before it. -/
theorem any_takeWhile_ancestors_iff :
    (n.ancestors.takeWhile p).any q = true ↔
      ∃ a ∈ n.ancestors, q a = true ∧ p a = true ∧
        ∀ c ∈ n.ancestors, a ∈ c.ancestors → p c = true := by
  rw [List.any_eq_true]
  constructor
  · rintro ⟨a, ha, hq⟩
    obtain ⟨front, rest, hsplit⟩ := List.append_of_mem ha
    have happend : n.ancestors = front ++ a :: (rest ++ n.ancestors.dropWhile p) := by
      rw [← List.cons_append, ← List.append_assoc, ← hsplit, List.takeWhile_append_dropWhile]
    refine ⟨a, (List.takeWhile_sublist p).mem ha, hq, List.mem_takeWhile_imp ha, fun c hc hac => ?_⟩
    have hfront : c ∈ front := (mem_front_iff happend).2 ⟨hc, hac⟩
    refine List.mem_takeWhile_imp (l := n.ancestors) ?_
    rw [hsplit]
    exact List.mem_append_left _ hfront
  · rintro ⟨a, ha, hq, hp, hall⟩
    obtain ⟨front, back, hsplit⟩ := List.append_of_mem ha
    refine ⟨a, ?_, hq⟩
    have hfront : ∀ c ∈ front, p c = true := by
      intro c hc
      obtain ⟨hcn, hac⟩ := (mem_front_iff hsplit).1 hc
      exact hall c hcn hac
    rw [hsplit, List.takeWhile_append_of_pos hfront, List.takeWhile_cons_of_pos hp]
    exact List.mem_append_right _ List.mem_cons_self

/-- Where some node above passes there is a nearest. -/
theorem exists_nearest (ha : a ∈ n.ancestors) (hp : p a = true) : ∃ b, Nearest p n b := by
  have hsome : (n.ancestors.find? p).isSome = true := List.find?_isSome.2 ⟨a, ha, hp⟩
  obtain ⟨b, hb⟩ := Option.isSome_iff_exists.1 hsome
  exact ⟨b, find?_ancestors_eq_some_iff.1 hb⟩

/-- Whatever else passes is further up. -/
theorem Nearest.atOrAbove (h : Nearest p n a) (hc : c ∈ n.ancestors) (hp : p c = true) :
    c.AtOrAbove a := by
  rcases AtOrAbove.comparable (Or.inr hc) (Or.inr h.above) with hca | rfl | hac
  · exact hca
  · exact .refl _
  · have hfail := h.between c hc hac
    rw [hp] at hfail
    cases hfail

end TypeLint.Node
