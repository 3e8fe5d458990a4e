/-!
# Sorting keeps what is left out apart

A stable sort commutes with leaving elements out: whether the others are dropped before or after the
sort, those that stay come out in the same order. That is what lets a report of many rules be
compared with the report of a few, and the theorem is `filterMap_mergeSort`, which also allows the
elements to be renamed on the way as long as the order does not see the new names.

Elements that compare equal come out in the order in which they went in (`pairwise_mergeSort_ties`);
for numbered elements that is the order of their numbers (`pairwise_zipIdx`).
-/

namespace TypeLint

/-- Where a list is cut into elements that fail a test and elements that pass it, the test finds the
first part. -/
theorem filter_not_append {α : Type} {q : α → Bool} {l₁ l₂ : List α}
    (h₁ : ∀ b ∈ l₁, q b = false) (h₂ : ∀ b ∈ l₂, q b = true) :
    (l₁ ++ l₂).filter (fun b => !q b) = l₁ := by
  have hall : l₁.filter (fun b => !q b) = l₁ :=
    List.filter_eq_self.2 fun b hb => by rw [h₁ b hb]; rfl
  have hnone : l₂.filter (fun b => !q b) = [] :=
    List.filter_eq_nil_iff.2 fun b hb => by rw [h₂ b hb]; exact Bool.false_ne_true
  rw [List.filter_append, hall, hnone, List.append_nil]

/-- A list sorted with one element more: what stands before the element is after it in no case, and
what stands behind it is. -/
theorem mergeSort_cons_split {α : Type} {le : α → α → Bool}
    (trans : ∀ a b c, le a b → le b c → le a c) (total : ∀ a b, le a b || le b a)
    (a : α) (l : List α) :
    ∃ l₁ l₂, (a :: l).mergeSort le = l₁ ++ a :: l₂ ∧ l.mergeSort le = l₁ ++ l₂ ∧
      (∀ b ∈ l₁, le a b = false) ∧ ∀ b ∈ l₂, le a b = true := by
  obtain ⟨l₁, l₂, hcons, hrest, hbefore⟩ := List.mergeSort_cons trans total a l
  have hsorted := List.pairwise_mergeSort trans total (a :: l)
  rw [hcons] at hsorted
  refine ⟨l₁, l₂, hcons, hrest, fun b hb => by simpa using hbefore b hb, fun b hb => ?_⟩
  exact List.rel_of_pairwise_cons (List.pairwise_append.1 hsorted).2.1 hb

/-- The numbers of a numbered list ascend. -/
theorem pairwise_zipIdx {α : Type} (l : List α) : l.zipIdx.Pairwise fun p q => p.2 < q.2 := by
  rw [← List.pairwise_map (f := Prod.snd), List.zipIdx_map_snd]
  exact List.pairwise_lt_range'

/-- A stable sort leaves elements that compare equal in the order that they had. -/
theorem pairwise_mergeSort_ties {α : Type} {le : α → α → Bool} {R : α → α → Prop}
    (trans : ∀ a b c, le a b → le b c → le a c) (total : ∀ a b, le a b || le b a) :
    ∀ l : List α, l.Pairwise R →
      (l.mergeSort le).Pairwise fun a b => le a b = true ∧ (le b a = true → R a b)
  | [], _ => by
    rw [List.mergeSort_nil]
    exact List.Pairwise.nil
  | a :: l, h => by
    obtain ⟨ha, hl⟩ := List.pairwise_cons.1 h
    have ih := pairwise_mergeSort_ties trans total l hl
    obtain ⟨l₁, l₂, hcons, hrest, hl₁, hl₂⟩ := mergeSort_cons_split trans total a l
    have hmem : ∀ b ∈ l₂, b ∈ l := fun b hb => by
      have hb' : b ∈ l.mergeSort le := hrest ▸ List.mem_append_right _ hb
      exact List.mem_mergeSort.1 hb'
    rw [hrest] at ih
    obtain ⟨ih₁, ih₂, ih₁₂⟩ := List.pairwise_append.1 ih
    rw [hcons]
    refine List.pairwise_append.2 ⟨ih₁, List.pairwise_cons.2 ⟨fun b hb => ?_, ih₂⟩, fun b hb c hc => ?_⟩
    · exact ⟨hl₂ b hb, fun _ => ha b (hmem b hb)⟩
    · rcases List.mem_cons.1 hc with rfl | hc
      · -- what stands before the new element is strictly before it
        have htotal := total b c
        rw [hl₁ b hb, Bool.or_false] at htotal
        exact ⟨htotal, fun hle => absurd hle (by rw [hl₁ b hb]; exact Bool.false_ne_true)⟩
      · exact ih₁₂ b hb c hc

/-- **A stable sort commutes with leaving elements out and renaming the rest.** -/
theorem filterMap_mergeSort {α β : Type} {le : α → α → Bool} {le' : β → β → Bool} {f : α → Option β}
    (trans : ∀ a b c, le a b → le b c → le a c) (total : ∀ a b, le a b || le b a)
    (trans' : ∀ a b c, le' a b → le' b c → le' a c) (total' : ∀ a b, le' a b || le' b a)
    (hf : ∀ a b a' b', f a = some a' → f b = some b' → le' a' b' = le a b) :
    ∀ l : List α, (l.mergeSort le).filterMap f = (l.filterMap f).mergeSort le'
  | [] => by rw [List.mergeSort_nil, List.filterMap_nil, List.mergeSort_nil]
  | a :: l => by
    have ih := filterMap_mergeSort trans total trans' total' hf l
    obtain ⟨l₁, l₂, hcons, hrest, hl₁, hl₂⟩ := mergeSort_cons_split trans total a l
    rw [hrest, List.filterMap_append] at ih
    rw [hcons, List.filterMap_append]
    cases ha : f a with
    | none => rw [List.filterMap_cons_none ha, List.filterMap_cons_none ha, ih]
    | some a' =>
      rw [List.filterMap_cons_some ha, List.filterMap_cons_some ha]
      obtain ⟨k₁, k₂, hcons', hrest', hk₁, hk₂⟩ :=
        mergeSort_cons_split trans' total' a' (l.filterMap f)
      -- both sides are the sorted rest with `a'` put in, and the order says where
      have hfront : l₁.filterMap f = k₁ := by
        rw [← filter_not_append hk₁ hk₂, ← hrest', ← ih]
        refine (filter_not_append (fun b' hb' => ?_) fun b' hb' => ?_).symm
        · obtain ⟨b, hb, hfb⟩ := List.mem_filterMap.1 hb'
          rw [hf a b a' b' ha hfb, hl₁ b hb]
        · obtain ⟨b, hb, hfb⟩ := List.mem_filterMap.1 hb'
          rw [hf a b a' b' ha hfb, hl₂ b hb]
      have hback : l₂.filterMap f = k₂ := by
        rw [hrest', hfront] at ih
        exact List.append_cancel_left ih
      rw [hcons', hfront, hback]

end TypeLint
