import TypeLint.Span.Conflict

/-!
# What overlapping means, and how a sweep finds it

`Span.overlaps` is told apart by which of its two spans are empty. For spans given the right way
round there is a shorter reading, `overlaps_iff`: either each starts before the other stops, or both
are the same insertion point. Everything else here follows from it.

Two facts carry the rest of the theory. In a list sorted by `Span.before`, spans whose neighbours do
not overlap do not overlap at all (`not_overlaps_of_between`), so that comparing neighbours is
enough. And two spans that lie within spans that do not overlap can only overlap as one and the same
insertion point (`overlaps_of_contained_iff`): a span that covers several edits hides an insertion at
its own end from a comparison of covers.

The sweep over sorted spans is complete, because a span that starts past the end of another overlaps
neither it nor anything after it: `mem_conflictingPairs_iff`.
-/

namespace TypeLint.Span

/-- The span is given the right way round. -/
def Forward (s : Span) : Prop := s.start ≤ s.stop

/-- Spans overlap when each starts before the other stops, or when both are the same insertion
point. -/
theorem overlaps_iff {s t : Span} (hs : s.Forward) (ht : t.Forward) :
    s.overlaps t = true ↔
      (s.start < t.stop ∧ t.start < s.stop) ∨ ∃ o, s = .point o ∧ t = .point o := by
  obtain ⟨a, b⟩ := s
  obtain ⟨c, d⟩ := t
  have hab : a ≤ b := hs
  have hcd : c ≤ d := ht
  simp only [point, mk.injEq]
  rw [overlaps]
  cases h1 : isEmpty ⟨a, b⟩ <;> cases h2 : isEmpty ⟨c, d⟩ <;>
    simp only [isEmpty, beq_iff_eq, beq_eq_false_iff_ne, ne_eq, Bool.and_eq_true,
      decide_eq_true_eq] at h1 h2 ⊢
  · refine ⟨Or.inl, ?_⟩
    intro h
    rcases h with h | ⟨o, h, -⟩ <;> omega
  · refine ⟨fun h => Or.inl (by omega), ?_⟩
    intro h
    rcases h with h | ⟨o, h, -⟩ <;> omega
  · refine ⟨fun h => Or.inl (by omega), ?_⟩
    intro h
    rcases h with h | ⟨o, -, h⟩ <;> omega
  · refine ⟨fun h => Or.inr ⟨a, by omega, by omega⟩, ?_⟩
    intro h
    rcases h with h | ⟨o, h, h'⟩ <;> omega

/-- Nothing can be edited twice at the same place. -/
theorem overlaps_self {s : Span} (hs : s.Forward) : s.overlaps s = true := by
  obtain ⟨a, b⟩ := s
  have hab : a ≤ b := hs
  rw [overlaps_iff hs hs]
  rcases Nat.lt_or_ge a b with hlt | hge
  · exact Or.inl ⟨hlt, hlt⟩
  · have hba : b = a := by omega
    exact Or.inr ⟨a, by rw [hba]; rfl, by rw [hba]; rfl⟩

/-- A span that overlaps another starts no later than the other stops. -/
theorem start_le_of_overlaps {s t : Span} (h : s.overlaps t = true) : t.start ≤ s.stop := by
  obtain ⟨a, b⟩ := s
  obtain ⟨c, d⟩ := t
  rw [overlaps] at h
  cases h1 : isEmpty ⟨a, b⟩ <;> cases h2 : isEmpty ⟨c, d⟩ <;> rw [h1, h2] at h <;>
    simp only [isEmpty, beq_iff_eq, beq_eq_false_iff_ne, ne_eq, Bool.and_eq_true,
      decide_eq_true_eq] at h h1 h2 ⊢ <;> omega

/-! ## Sorted spans -/

theorem before_iff {s t : Span} :
    s.before t = true ↔ s.start < t.start ∨ (s.start = t.start ∧ s.stop ≤ t.stop) := by
  simp [before]

theorem before_trans (a b c : Span) (h1 : a.before b = true) (h2 : b.before c = true) :
    a.before c = true := by
  rw [before_iff] at h1 h2 ⊢
  omega

theorem before_total (a b : Span) : (a.before b || b.before a) = true := by
  rw [Bool.or_eq_true, before_iff, before_iff]
  omega

theorem before_antisymm {s t : Span} (h1 : s.before t = true) (h2 : t.before s = true) : s = t := by
  obtain ⟨a, b⟩ := s
  obtain ⟨c, d⟩ := t
  rw [before_iff] at h1 h2
  simp only at h1 h2
  rw [mk.injEq]
  omega

/-- Spans are sorted and do not overlap exactly when the first stops where the second starts or
earlier, and they are not the same insertion point. -/
theorem before_and_apart_iff {s t : Span} (hs : s.Forward) (ht : t.Forward) :
    (s.before t = true ∧ s.overlaps t = false) ↔ s.stop ≤ t.start ∧ s.start < t.stop := by
  obtain ⟨a, b⟩ := s
  obtain ⟨c, d⟩ := t
  have hab : a ≤ b := hs
  have hcd : c ≤ d := ht
  rw [before_iff, Bool.eq_false_iff, ne_eq, overlaps_iff hs ht]
  simp only [point, mk.injEq]
  constructor
  · rintro ⟨hb, hno⟩
    rw [not_or, not_exists] at hno
    have := hno.2 a
    omega
  · rintro ⟨hle, hlt⟩
    refine ⟨by omega, ?_⟩
    rintro (h | ⟨o, h, h'⟩) <;> omega

/-- Of two sorted spans that do not overlap, the first stops where the second starts or earlier. -/
theorem stop_le_of_before {s t : Span} (hs : s.Forward) (ht : t.Forward)
    (hb : s.before t = true) (h : s.overlaps t = false) : s.stop ≤ t.start :=
  ((before_and_apart_iff hs ht).1 ⟨hb, h⟩).1

/-- If `s`, `m`, `t` are sorted and `m` overlaps neither of the others, then `s` and `t` do not
overlap either: what lies between keeps them apart. -/
theorem not_overlaps_of_between {s m t : Span} (hs : s.Forward) (hm : m.Forward) (ht : t.Forward)
    (hsm : s.before m = true) (hmt : m.before t = true)
    (h1 : s.overlaps m = false) (h2 : m.overlaps t = false) : s.overlaps t = false := by
  have hle := stop_le_of_before hs hm hsm h1
  have hle' := stop_le_of_before hm ht hmt h2
  rw [Bool.eq_false_iff] at h1 ⊢
  intro hst
  rcases (overlaps_iff hs ht).1 hst with ⟨-, hlt⟩ | ⟨o, rfl, rfl⟩
  · have := hm
    unfold Forward at this
    omega
  · -- both are the insertion point `o`, so the span between them is that point as well
    have hmo : m = .point o := by
      obtain ⟨c, d⟩ := m
      have hcd : c ≤ d := hm
      simp only [point, mk.injEq] at hle hle' ⊢
      omega
    subst hmo
    exact h1 hst

/-! ## Spans within spans -/

theorem contains_iff {s t : Span} : s.contains t = true ↔ s.start ≤ t.start ∧ t.stop ≤ s.stop := by
  simp [contains]

theorem contains_refl (s : Span) : s.contains s = true := by
  rw [contains_iff]
  omega

theorem contains_trans {s t u : Span} (h1 : s.contains t = true) (h2 : t.contains u = true) :
    s.contains u = true := by
  rw [contains_iff] at h1 h2 ⊢
  omega

theorem cover_contains_left (s t : Span) : (s.cover t).contains s = true := by
  rw [contains_iff, cover, between]
  split <;> simp only <;> omega

theorem cover_contains_right (s t : Span) : (s.cover t).contains t = true := by
  rw [contains_iff, cover, between]
  split <;> simp only <;> omega

/-- Within spans that do not overlap, only insertions at one offset overlap. -/
theorem overlaps_of_contained_iff {s t a b : Span} (ha : a.Forward) (hb : b.Forward)
    (hsa : s.contains a = true) (htb : t.contains b = true) (h : s.overlaps t = false) :
    a.overlaps b = true ↔ ∃ o, a = .point o ∧ b = .point o := by
  rw [contains_iff] at hsa htb
  unfold Forward at ha hb
  have hs : s.Forward := by unfold Forward; omega
  have ht : t.Forward := by unfold Forward; omega
  have hno : ¬ s.overlaps t = true := by rw [h]; exact Bool.false_ne_true
  rw [overlaps_iff hs ht, not_or] at hno
  rw [overlaps_iff ha hb]
  constructor
  · intro h
    rcases h with ⟨h1, h2⟩ | hpoint
    · -- sharing more than a point would make the outer spans overlap
      exact absurd ⟨by omega, by omega⟩ hno.1
    · exact hpoint
  · exact Or.inr

/-! ## The sweep -/

/-- The spans are sorted from left to right. -/
def Swept (l : List (Nat × Span)) : Prop := l.Pairwise fun p q => p.2.before q.2 = true

/-- Ending the comparison at the first span that starts past the end loses nothing. -/
theorem mem_conflictsWith_iff {i : Nat × Span} {p : Nat × Nat} :
    ∀ {l : List (Nat × Span)}, Swept l →
      (p ∈ conflictsWith i l ↔
        ∃ j ∈ l, i.2.overlaps j.2 = true ∧ p = (min i.1 j.1, max i.1 j.1))
  | [], _ => by simp [conflictsWith]
  | j :: l, h => by
    obtain ⟨hj, hl⟩ := List.pairwise_cons.1 h
    have ih := mem_conflictsWith_iff (i := i) (p := p) hl
    unfold conflictsWith
    split
    next hpast =>
      refine ⟨fun hp => absurd hp (by simp), ?_⟩
      intro h
      obtain ⟨k, hk, hov, -⟩ := h
      -- everything from `j` on starts past the end of `i`
      have hstart := start_le_of_overlaps hov
      rcases List.mem_cons.1 hk with rfl | hk
      · omega
      · have := before_iff.1 (hj k hk)
        omega
    next =>
      split
      next hov =>
        rw [List.mem_cons, ih]
        constructor
        · intro h
          rcases h with rfl | ⟨k, hk, hk'⟩
          · exact ⟨j, List.mem_cons_self .., hov, rfl⟩
          · exact ⟨k, List.mem_cons_of_mem _ hk, hk'⟩
        · intro h
          obtain ⟨k, hk, hk'⟩ := h
          rcases List.mem_cons.1 hk with rfl | hk
          · exact Or.inl hk'.2
          · exact Or.inr ⟨k, hk, hk'⟩
      next hov =>
        rw [ih]
        constructor
        · intro h
          obtain ⟨k, hk, hk'⟩ := h
          exact ⟨k, List.mem_cons_of_mem _ hk, hk'⟩
        · intro h
          obtain ⟨k, hk, hk'⟩ := h
          rcases List.mem_cons.1 hk with rfl | hk
          · exact absurd hk'.1 hov
          · exact ⟨k, hk, hk'⟩

/-- The sweep finds a pair of numbers exactly when their spans overlap. -/
theorem mem_sweep_iff {a b : Nat} :
    ∀ {l : List (Nat × Span)}, Swept l → (l.map (·.1)).Nodup →
      ((a, b) ∈ sweep l ↔
        a < b ∧ ∃ s t, (a, s) ∈ l ∧ (b, t) ∈ l ∧ s.overlaps t = true)
  | [], _, _ => by simp [sweep]
  | i :: l, h, hn => by
    obtain ⟨-, hl⟩ := List.pairwise_cons.1 h
    rw [List.map_cons, List.nodup_cons] at hn
    have hne : ∀ j ∈ l, j.1 ≠ i.1 := fun j hj he => hn.1 (he ▸ List.mem_map_of_mem hj)
    rw [sweep, List.mem_append, mem_conflictsWith_iff hl, mem_sweep_iff hl hn.2]
    constructor
    · intro h
      rcases h with ⟨j, hj, hov, hp⟩ | ⟨hlt, s, t, hs, ht, hov⟩
      · have hij := hne j hj
        rw [Prod.mk.injEq] at hp
        obtain ⟨rfl, rfl⟩ := hp
        refine ⟨by omega, ?_⟩
        rcases Nat.lt_or_ge i.1 j.1 with hlt | hge
        · rw [Nat.min_eq_left (Nat.le_of_lt hlt), Nat.max_eq_right (Nat.le_of_lt hlt)]
          exact ⟨i.2, j.2, List.mem_cons_self .., List.mem_cons_of_mem _ hj, hov⟩
        · rw [Nat.min_eq_right hge, Nat.max_eq_left hge]
          exact ⟨j.2, i.2, List.mem_cons_of_mem _ hj, List.mem_cons_self ..,
            overlaps_comm i.2 j.2 ▸ hov⟩
      · exact ⟨hlt, s, t, List.mem_cons_of_mem _ hs, List.mem_cons_of_mem _ ht, hov⟩
    · intro h
      obtain ⟨hlt, s, t, hs, ht, hov⟩ := h
      rcases List.mem_cons.1 hs with rfl | hs'
      · rcases List.mem_cons.1 ht with hti | ht'
        · cases hti
          exact absurd hlt (Nat.lt_irrefl _)
        · refine Or.inl ⟨(b, t), ht', hov, ?_⟩
          simp only [Prod.mk.injEq]
          omega
      · rcases List.mem_cons.1 ht with rfl | ht'
        · refine Or.inl ⟨(a, s), hs', overlaps_comm s t ▸ hov, ?_⟩
          simp only [Prod.mk.injEq]
          omega
        · exact Or.inr ⟨hlt, s, t, hs', ht', hov⟩

theorem mem_numbered_iff {spans : List Span} {i : Nat} {s : Span} :
    (i, s) ∈ numbered spans ↔ spans[i]? = some s := by
  rw [numbered, List.mem_mergeSort, List.mem_map]
  constructor
  · intro h
    obtain ⟨⟨s', i'⟩, hmem, heq⟩ := h
    cases heq
    exact List.mem_zipIdx_iff_getElem?.1 hmem
  · intro h
    exact ⟨(s, i), List.mem_zipIdx_iff_getElem?.2 h, rfl⟩

theorem swept_numbered (spans : List Span) : Swept (numbered spans) :=
  List.pairwise_mergeSort (fun a b c => before_trans a.2 b.2 c.2)
    (fun a b => before_total a.2 b.2) _

theorem nodup_numbered (spans : List Span) : ((numbered spans).map (·.1)).Nodup := by
  have hperm : (numbered spans).Perm (spans.zipIdx.map fun e => (e.2, e.1)) :=
    List.mergeSort_perm _ _
  refine (hperm.map (·.1)).nodup_iff.2 ?_
  rw [List.map_map]
  show (spans.zipIdx.map (·.2)).Nodup
  rw [List.zipIdx_map_snd]
  exact List.nodup_range'

/-- The pairs found are those of two positions, in order, whose spans overlap. -/
theorem mem_conflictingPairs_iff {spans : List Span} {a b : Nat} :
    (a, b) ∈ conflictingPairs spans ↔
      a < b ∧ ∃ s t, spans[a]? = some s ∧ spans[b]? = some t ∧ s.overlaps t = true := by
  rw [conflictingPairs, List.mem_mergeSort,
    mem_sweep_iff (swept_numbered spans) (nodup_numbered spans)]
  simp only [mem_numbered_iff]

end TypeLint.Span
