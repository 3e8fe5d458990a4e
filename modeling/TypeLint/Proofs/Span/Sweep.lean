import TypeLint.Proofs.Span.Overlap
import TypeLint.Proofs.StableSort

/-!
# The sweep against comparing each span with each

`comparedPairs` is the plain way to find conflicts: two nested loops over all positions. The sweep
sorts the spans first and stops comparing early, and it gives the same list of pairs:
`sweep_finds_each_conflict_once`.

That it misses nothing and adds nothing is `mem_conflictingPairs_iff`. What is left is that it finds
no pair twice. The conflicts of one span all bear the number of that span, and each bears another
number beside it (`nodup_conflictsWith`); the span is then left behind, so that its number is in no
pair found later (`nodup_sweep`). Sorted without repetition, the pairs are in strictly ascending
order, and there is one such list of given pairs.
-/

namespace TypeLint.Span

/-- Each span compared with each: the pairs of positions, the smaller one first, whose spans
overlap. -/
def comparedPairs (spans : List Span) : List (Nat × Nat) :=
  spans.zipIdx.flatMap fun (s, i) =>
    spans.zipIdx.filterMap fun (t, j) => if i < j && s.overlaps t then some (i, j) else none

/-! ## No pair is found twice -/

/-- The numbers of other spans make the conflicts of one span different. -/
theorem nodup_conflictsWith {i : Nat × Span} :
    ∀ {l : List (Nat × Span)}, Swept l → (l.map (·.1)).Nodup → (conflictsWith i l).Nodup := by
  intro l
  induction l with
  | nil => exact fun _ _ => List.nodup_nil
  | cons j l ih =>
    intro hswept hnodup
    obtain ⟨-, hl⟩ := List.pairwise_cons.1 hswept
    rw [List.map_cons, List.nodup_cons] at hnodup
    unfold conflictsWith
    by_cases hpast : i.2.stop < j.2.start
    · rw [if_pos hpast]
      exact List.nodup_nil
    · rw [if_neg hpast]
      by_cases hov : i.2.overlaps j.2 = true
      · rw [if_pos hov]
        refine List.nodup_cons.2 ⟨?_, ih hl hnodup.2⟩
        intro hmem
        obtain ⟨k, hk, -, hpair⟩ := (mem_conflictsWith_iff hl).1 hmem
        -- beside the number of `i` the pair bears that of `j` and of `k`
        have hjk : j.1 = k.1 := by
          rw [Prod.mk.injEq] at hpair
          omega
        exact hnodup.1 (hjk ▸ List.mem_map_of_mem hk)
      · rw [if_neg hov]
        exact ih hl hnodup.2

theorem nodup_sweep :
    ∀ {l : List (Nat × Span)}, Swept l → (l.map (·.1)).Nodup → (sweep l).Nodup := by
  intro l
  induction l with
  | nil => exact fun _ _ => List.nodup_nil
  | cons i l ih =>
    intro hswept hnodup
    obtain ⟨-, hl⟩ := List.pairwise_cons.1 hswept
    rw [List.map_cons, List.nodup_cons] at hnodup
    refine List.nodup_append.2 ⟨nodup_conflictsWith hl hnodup.2, ih hl hnodup.2, ?_⟩
    intro p hp q hq hpq
    obtain ⟨j, -, -, rfl⟩ := (mem_conflictsWith_iff hl).1 hp
    rw [← hpq] at hq
    obtain ⟨-, s, t, hs, ht, -⟩ := (mem_sweep_iff hl hnodup.2).1 hq
    -- a pair found later is of two numbers that are left, and `i` is not among them
    have hmin : min i.1 j.1 ∈ l.map (·.1) := List.mem_map_of_mem hs
    have hmax : max i.1 j.1 ∈ l.map (·.1) := List.mem_map_of_mem ht
    rcases Nat.le_total i.1 j.1 with hle | hle
    · rw [Nat.min_eq_left hle] at hmin
      exact hnodup.1 hmin
    · rw [Nat.max_eq_left hle] at hmax
      exact hnodup.1 hmax

/-! ## Ascending pairs -/

theorem pairBefore_iff {p q : Nat × Nat} :
    pairBefore p q = true ↔ p.1 < q.1 ∨ (p.1 = q.1 ∧ p.2 ≤ q.2) := by
  simp [pairBefore]

theorem pairBefore_trans (p q r : Nat × Nat) (h1 : pairBefore p q = true)
    (h2 : pairBefore q r = true) : pairBefore p r = true := by
  rw [pairBefore_iff] at h1 h2 ⊢
  omega

theorem pairBefore_total (p q : Nat × Nat) : (pairBefore p q || pairBefore q p) = true := by
  rw [Bool.or_eq_true, pairBefore_iff, pairBefore_iff]
  omega

/-- Pairs of numbers in ascending order, by the first number and then by the second, none twice. -/
def Ascending (l : List (Nat × Nat)) : Prop := l.Pairwise (Prod.Lex (· < ·) (· < ·))

theorem Ascending.nodup {l : List (Nat × Nat)} (h : Ascending l) : l.Nodup := by
  refine h.imp ?_
  rintro p q hlex rfl
  rw [Prod.lex_def] at hlex
  omega

/-- Ascending lists of the same pairs are equal. -/
theorem Ascending.eq {l l' : List (Nat × Nat)} (h : Ascending l) (h' : Ascending l')
    (hmem : ∀ p, p ∈ l ↔ p ∈ l') : l = l' := by
  refine List.Perm.eq_of_pairwise ?_ h h' ((List.perm_ext_iff_of_nodup h.nodup h'.nodup).2 hmem)
  intro p q _ _ hpq hqp
  rw [Prod.lex_def] at hpq hqp
  omega

theorem ascending_conflictingPairs (spans : List Span) : Ascending (conflictingPairs spans) := by
  have hsorted : (conflictingPairs spans).Pairwise fun p q => pairBefore p q = true :=
    List.pairwise_mergeSort pairBefore_trans pairBefore_total _
  have hnodup : (conflictingPairs spans).Nodup :=
    (List.mergeSort_perm _ _).nodup_iff.2
      (nodup_sweep (swept_numbered spans) (nodup_numbered spans))
  refine (hsorted.and hnodup).imp ?_
  rintro ⟨a, b⟩ ⟨c, d⟩ ⟨hle, hne⟩
  rw [pairBefore_iff] at hle
  rw [Prod.lex_def]
  simp only [ne_eq, Prod.mk.injEq] at hle hne ⊢
  omega

/-! ## The nested loops -/

theorem mem_comparedPairs_iff {spans : List Span} {i j : Nat} :
    (i, j) ∈ comparedPairs spans ↔
      i < j ∧ ∃ s t, spans[i]? = some s ∧ spans[j]? = some t ∧ s.overlaps t = true := by
  unfold comparedPairs
  rw [List.mem_flatMap]
  constructor
  · rintro ⟨⟨s, i'⟩, hs, hmem⟩
    obtain ⟨⟨t, j'⟩, ht, hpair⟩ := List.mem_filterMap.1 hmem
    simp only [Option.ite_none_right_eq_some, Bool.and_eq_true, decide_eq_true_eq,
      Option.some.injEq, Prod.mk.injEq] at hpair
    obtain ⟨⟨hlt, hov⟩, rfl, rfl⟩ := hpair
    exact ⟨hlt, s, t, List.mem_zipIdx_iff_getElem?.1 hs, List.mem_zipIdx_iff_getElem?.1 ht, hov⟩
  · rintro ⟨hlt, s, t, hs, ht, hov⟩
    refine ⟨(s, i), List.mem_zipIdx_iff_getElem?.2 hs, List.mem_filterMap.2
      ⟨(t, j), List.mem_zipIdx_iff_getElem?.2 ht, ?_⟩⟩
    simp [hlt, hov]

theorem ascending_comparedPairs (spans : List Span) : Ascending (comparedPairs spans) := by
  have hnumbers := pairwise_zipIdx spans
  refine List.pairwise_flatMap.2 ⟨?_, hnumbers.imp ?_⟩
  · -- one turn of the outer loop: the first number stays, the second grows
    intro p _
    refine List.pairwise_filterMap.2 (hnumbers.imp ?_)
    intro q r hlt a ha b hb
    simp only [Option.ite_none_right_eq_some, Option.some.injEq] at ha hb
    rw [Prod.lex_def, ← ha.2, ← hb.2]
    exact Or.inr ⟨rfl, hlt⟩
  · -- from one turn to a later one the first number grows
    intro p q hlt a ha b hb
    obtain ⟨_, -, ha⟩ := List.mem_filterMap.1 ha
    obtain ⟨_, -, hb⟩ := List.mem_filterMap.1 hb
    simp only [Option.ite_none_right_eq_some, Option.some.injEq] at ha hb
    rw [Prod.lex_def, ← ha.2, ← hb.2]
    exact Or.inl hlt

/-- **The sweep finds every conflict, and each once.** The pairs it answers are the pairs of
positions, the smaller one first, whose spans overlap; they are in ascending order and none is
repeated. So they are the list that two nested loops over all positions give. -/
theorem sweep_finds_each_conflict_once (spans : List Span) :
    (∀ i j, (i, j) ∈ conflictingPairs spans ↔
      i < j ∧ ∃ s t, spans[i]? = some s ∧ spans[j]? = some t ∧ s.overlaps t = true) ∧
    (conflictingPairs spans).Pairwise (Prod.Lex (· < ·) (· < ·)) ∧
    (conflictingPairs spans).Nodup ∧
    conflictingPairs spans = comparedPairs spans := by
  have hascending := ascending_conflictingPairs spans
  refine ⟨fun i j => mem_conflictingPairs_iff, hascending, hascending.nodup, ?_⟩
  refine hascending.eq (ascending_comparedPairs spans) ?_
  rintro ⟨i, j⟩
  rw [mem_conflictingPairs_iff, mem_comparedPairs_iff]

end TypeLint.Span
