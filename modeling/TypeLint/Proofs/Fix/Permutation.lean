import TypeLint.Proofs.Fix.Simultaneous

/-!
# The order in which edits are given does not matter

Edits are sorted by their spans alone, and edits of equal spans stay in the order in which they were
given. That order is never seen. Sorting puts the same spans in the same places however the edits come
(`map_span_sorted`), and the comparison of neighbours looks at nothing but spans
(`firstOverlap?_congr`), so the same two spans are refused. Where none are refused all spans differ,
and then the sorted edits themselves are the same (`sorted_cases`). Everything else that is done with
edits is done with the sorted ones.
-/

namespace TypeLint

namespace Edit

/-- Sorting puts the same spans in the same places, in whatever order the edits are given. -/
theorem map_span_sorted {edits given : List Edit} (hperm : given.Perm edits) :
    (sorted given).map (·.span) = (sorted edits).map (·.span) := by
  have hsorted : ∀ l : List Edit,
      ((sorted l).map (·.span)).Pairwise fun s t => s.before t = true := by
    intro l
    exact List.pairwise_map.2 (pairwise_sorted l)
  have hspans : ((sorted given).map (·.span)).Perm ((sorted edits).map (·.span)) :=
    ((sorted_perm given).trans (hperm.trans (sorted_perm edits).symm)).map _
  refine List.Perm.eq_of_pairwise ?_ (hsorted given) (hsorted edits) hspans
  intro s t _ _ hst hts
  exact Span.before_antisymm hst hts

/-- Comparing neighbours looks at their spans only. -/
theorem firstOverlap?_congr :
    ∀ {l l' : List Edit}, l.map (·.span) = l'.map (·.span) → firstOverlap? l = firstOverlap? l'
  | [], l', h => by
    rw [List.map_nil, eq_comm, List.map_eq_nil_iff] at h
    rw [h]
  | [a], l', h => by
    obtain ⟨a', rfl⟩ : ∃ a', l' = [a'] := by
      rw [← List.length_eq_one_iff, ← List.length_map (f := (·.span)), ← h]
      rfl
    rfl
  | a :: b :: l, l', h => by
    obtain ⟨a', rest, rfl, ha, hrest⟩ := List.map_eq_cons_iff.1 h.symm
    obtain ⟨b', l', rfl, hb, hl⟩ := List.map_eq_cons_iff.1 hrest
    have ih : firstOverlap? (b :: l) = firstOverlap? (b' :: l') :=
      firstOverlap?_congr (by rw [List.map_cons, List.map_cons, hb, hl])
    rw [firstOverlap?, firstOverlap?, ha, hb, ih]

/-- Edits in another order are refused for the same spans, or are the same edits once sorted. -/
theorem sorted_cases {edits given : List Edit} (hf : ∀ e ∈ edits, e.span.Forward)
    (hperm : given.Perm edits) :
    (∃ a b, firstOverlap? (sorted given) = some (a, b) ∧
      firstOverlap? (sorted edits) = some (a, b)) ∨
    (firstOverlap? (sorted edits) = none ∧ sorted given = sorted edits) := by
  have hsame := firstOverlap?_congr (map_span_sorted hperm)
  cases hfirst : firstOverlap? (sorted edits) with
  | some pair =>
    rw [hfirst] at hsame
    exact Or.inl ⟨pair.1, pair.2, hsame, rfl⟩
  | none =>
    -- nothing overlaps, so no two edits compete for a place
    have hapart : Apart edits := (firstOverlap?_eq_none_iff hf).1 hfirst
    exact Or.inr ⟨rfl, eq_sorted hf hapart ((sorted_perm given).trans hperm) (pairwise_sorted given)⟩

end Edit

/-- **The order in which edits are given does not matter.** Making them gives the same text, or fails
with the same error about the same spans and texts, and no piece of the text is missing in one order
only. A fix made of them is the same fix, or is refused with the same error. -/
theorem edits_in_any_order (source : String) {edits given : List Edit}
    (hf : ∀ e ∈ edits, e.span.Forward) (hperm : given.Perm edits) :
    applyEdits source given = applyEdits source edits ∧
    applyEdits? source given = applyEdits? source edits ∧
    ∀ description confidence,
      Fix.make description confidence given = Fix.make description confidence edits := by
  have happly : applyEdits source given = applyEdits source edits := by
    rcases Edit.sorted_cases hf hperm with ⟨a, b, hgiven, hedits⟩ | ⟨hnone, hsorted⟩
    · rw [applyEdits_of_overlap hgiven, applyEdits_of_overlap hedits]
    · rw [applyEdits_of_apart hnone, applyEdits_of_apart (by rw [hsorted]; exact hnone), hsorted]
  refine ⟨happly, ?_, ?_⟩
  · have hf' : ∀ e ∈ given, e.span.Forward := fun e he => hf e (hperm.mem_iff.1 he)
    rw [applyEdits?_eq_some hf, applyEdits?_eq_some hf', happly]
  · intro description confidence
    rcases Edit.sorted_cases hf hperm with ⟨a, b, hgiven, hedits⟩ | ⟨-, hsorted⟩
    · rw [Fix.make_overlap_iff.2 hgiven, Fix.make_overlap_iff.2 hedits]
    · unfold Fix.make
      rw [hsorted]

/-- An edit past the end, given before one whose text has changed. -/
def strayEdits : List Edit := [⟨⟨2, 9⟩, "x", ""⟩, ⟨⟨0, 1⟩, "y", "b"⟩]

/-- The edit on the left is the one complained about, whichever is given first. -/
theorem edits_in_any_order_stray :
    (∀ e ∈ strayEdits, e.span.Forward) ∧ strayEdits.reverse.Perm strayEdits ∧
    applyEdits "abc" strayEdits.reverse = .error (.sourceDrift ⟨0, 1⟩ "b" "a") ∧
    Fix.make "" .high strayEdits.reverse = Fix.make "" .high strayEdits := by
  have hf : ∀ e ∈ strayEdits, e.span.Forward := by
    intro e he
    simp only [strayEdits, List.mem_cons, List.not_mem_nil, or_false] at he
    rcases he with rfl | rfl <;> exact Nat.le_of_ble_eq_true rfl
  have hperm : strayEdits.reverse.Perm strayEdits := List.reverse_perm strayEdits
  have hdrift : applyEdits "abc" strayEdits = .error (.sourceDrift ⟨0, 1⟩ "b" "a") := by cbv
  obtain ⟨happly, -, hmake⟩ := edits_in_any_order "abc" hf hperm
  exact ⟨hf, hperm, happly.trans hdrift, hmake "" .high⟩

end TypeLint
