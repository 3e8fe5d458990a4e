import TypeLint.Analysis.Conflict
import TypeLint.Proofs.Fix.Edits
import TypeLint.Proofs.StableSort

/-!
# Which fixes survive

Conflict resolution elects fixes by rank: `Conflict.elect` takes each candidate in turn unless one
that it conflicts with was taken before. Whatever the ranks are, the candidates that do not lose
never conflict with each other (`not_mem_opponents_of_not_lost`), and that is what
`resolveConflicts_spans_apart` says of the findings: the spans that cover two fixes still proposed
do not overlap.

Everybody else is either untouched or withdrawn. A finding loses at most once (`nodup_losers`), only
a proposed fix can lose (`proposed_of_mem_losers`), and `resolveConflicts` answers how many did.
-/

namespace TypeLint

namespace Conflict

variable {t : SyntaxTree}

/-! ## The election -/

theorem mem_opponents_iff {pairs : List (Nat × Nat)} {c o : Nat} :
    o ∈ opponents pairs c ↔ (c, o) ∈ pairs ∨ (o, c) ∈ pairs := by
  rw [opponents, List.mem_filterMap]
  constructor
  · intro h
    obtain ⟨⟨a, b⟩, hmem, h⟩ := h
    simp only at h
    split at h
    next hac =>
      cases h
      exact Or.inl (hac ▸ hmem)
    next =>
      split at h
      next hbc =>
        cases h
        exact Or.inr (hbc ▸ hmem)
      next => cases h
  · intro h
    rcases h with hmem | hmem
    · exact ⟨(c, o), hmem, by simp⟩
    · by_cases hoc : o = c
      · subst hoc
        exact ⟨(o, o), hmem, by simp⟩
      · exact ⟨(o, c), hmem, by simp [hoc]⟩

theorem opponents_symm {pairs : List (Nat × Nat)} {c o : Nat} (h : o ∈ opponents pairs c) :
    c ∈ opponents pairs o :=
  mem_opponents_iff.2 (mem_opponents_iff.1 h).symm

theorem elect_nil (order taken : List Nat) : elect [] order taken = [] := by
  induction order generalizing taken with
  | nil => rfl
  | cons c rest ih => exact ih (c :: taken)

/-- The losers are among the candidates, in the order in which they were tried. -/
theorem elect_sublist (pairs : List (Nat × Nat)) :
    ∀ (order taken : List Nat), ((elect pairs order taken).map (·.1)).Sublist order
  | [], _ => List.Sublist.refl _
  | c :: rest, taken => by
    rw [elect]
    split
    next => exact (elect_sublist pairs rest (c :: taken)).cons _
    next => exact (elect_sublist pairs rest taken).cons_cons _

/-- A candidate loses only to one that it conflicts with. -/
theorem mem_opponents_of_mem_elect {pairs : List (Nat × Nat)} {c w : Nat} :
    ∀ {order taken : List Nat}, (c, w) ∈ elect pairs order taken → w ∈ opponents pairs c
  | [], _, h => by simp [elect] at h
  | d :: rest, taken, h => by
    rw [elect] at h
    split at h
    next => exact mem_opponents_of_mem_elect h
    next winner hfind =>
      rcases List.mem_cons.1 h with heq | h
      · cases heq
        exact List.mem_of_find?_eq_some hfind
      · exact mem_opponents_of_mem_elect h

/-- A candidate that does not lose conflicts with nothing that was taken before, and with no other
candidate that does not lose. -/
theorem not_mem_opponents_of_not_lost {pairs : List (Nat × Nat)} {c : Nat} :
    ∀ {order taken : List Nat}, order.Nodup → c ∈ order →
      c ∉ (elect pairs order taken).map (·.1) →
      (∀ o ∈ taken, o ∉ opponents pairs c) ∧
      ∀ o ∈ order, o ≠ c → o ∉ (elect pairs order taken).map (·.1) → o ∉ opponents pairs c
  | [], _, _, hc, _ => absurd hc (by simp)
  | d :: rest, taken, hn, hc, hlost => by
    have hrest : rest.Nodup := (List.nodup_cons.1 hn).2
    rw [elect] at hlost ⊢
    split
    next hfind =>
      -- `d` is taken: from here on it counts among those taken before
      rw [hfind] at hlost
      have hdfree : ∀ o ∈ taken, o ∉ opponents pairs d := by
        intro o ho hopp
        have := List.find?_eq_none.1 hfind o hopp
        exact this (by simpa using ho)
      rcases List.mem_cons.1 hc with rfl | hc
      · refine ⟨hdfree, fun o ho hoc holost hopp => ?_⟩
        rcases List.mem_cons.1 ho with rfl | ho
        · exact hoc rfl
        · have hfree := (not_mem_opponents_of_not_lost hrest ho holost).1
          exact hfree c (List.mem_cons_self ..) (opponents_symm hopp)
      · obtain ⟨hfree, hothers⟩ := not_mem_opponents_of_not_lost hrest hc hlost
        refine ⟨fun o ho => hfree o (List.mem_cons_of_mem _ ho), fun o ho hoc holost => ?_⟩
        rcases List.mem_cons.1 ho with rfl | ho
        · exact hfree o (List.mem_cons_self ..)
        · exact hothers o ho hoc holost
    next winner hfind =>
      -- `d` loses, so it is neither `c` nor any other that does not
      rw [hfind] at hlost
      simp only [List.map_cons, List.mem_cons, not_or] at hlost ⊢
      rcases List.mem_cons.1 hc with rfl | hc
      · exact absurd rfl hlost.1
      · obtain ⟨hfree, hothers⟩ := not_mem_opponents_of_not_lost hrest hc hlost.2
        refine ⟨hfree, fun o ho hoc holost => ?_⟩
        rcases ho with rfl | ho
        · exact absurd rfl holost.1
        · exact hothers o ho hoc holost.2

/-! ## Candidates -/

theorem mem_candidates_iff {findings : List (Finding t)} {c : Candidate t} :
    c ∈ candidates findings ↔ findings[c.position]? = some c.finding ∧
      ∃ fix, c.finding.diagnostic.proposedFix? = some fix ∧ fix.span? = some c.span := by
  rw [candidates, List.mem_filterMap]
  constructor
  · intro h
    obtain ⟨⟨f, i⟩, hmem, h⟩ := h
    obtain ⟨s, hs, rfl⟩ := Option.map_eq_some_iff.1 h
    exact ⟨List.mem_zipIdx_iff_getElem?.1 hmem, Option.bind_eq_some_iff.1 hs⟩
  · intro h
    obtain ⟨hget, fix, hfix, hspan⟩ := h
    refine ⟨(c.finding, c.position), List.mem_zipIdx_iff_getElem?.2 hget, ?_⟩
    simp only [hfix, Option.bind_some, hspan, Option.map_some]

/-- Candidates are listed by position. -/
theorem pairwise_candidates (findings : List (Finding t)) :
    (candidates findings).Pairwise fun a b => a.position < b.position := by
  rw [candidates, List.pairwise_filterMap]
  refine (pairwise_zipIdx findings).imp fun {a b} hab c hc d hd => ?_
  obtain ⟨s, -, rfl⟩ := Option.map_eq_some_iff.1 hc
  obtain ⟨s', -, rfl⟩ := Option.map_eq_some_iff.1 hd
  exact hab

theorem position_lt_of_lt {findings : List (Finding t)} {a b : Nat} {x y : Candidate t}
    (ha : (candidates findings)[a]? = some x) (hb : (candidates findings)[b]? = some y)
    (hab : a < b) : x.position < y.position := by
  obtain ⟨hla, rfl⟩ := List.getElem?_eq_some_iff.1 ha
  obtain ⟨hlb, rfl⟩ := List.getElem?_eq_some_iff.1 hb
  exact List.pairwise_iff_getElem.1 (pairwise_candidates findings) a b hla hlb hab

/-- A position is that of one candidate. -/
theorem eq_of_position_eq {findings : List (Finding t)} {a b : Nat} {x y : Candidate t}
    (ha : (candidates findings)[a]? = some x) (hb : (candidates findings)[b]? = some y)
    (h : x.position = y.position) : a = b := by
  rcases Nat.lt_trichotomy a b with hlt | heq | hgt
  · have := position_lt_of_lt ha hb hlt
    omega
  · exact heq
  · have := position_lt_of_lt hb ha hgt
    omega

/-- The order of election goes through every candidate once. -/
theorem order_perm_range (rules : RuleSet) (policy : FixPolicy) (cs : List (Candidate t)) :
    (order rules policy cs).Perm (List.range cs.length) := by
  have hperm := (List.mergeSort_perm cs.zipIdx fun a b =>
    rankBefore (rankOf rules policy a.1.finding) (rankOf rules policy b.1.finding)).map (·.2)
  rw [List.zipIdx_map_snd, ← List.range_eq_range'] at hperm
  exact hperm

theorem nodup_order (rules : RuleSet) (policy : FixPolicy) (cs : List (Candidate t)) :
    (order rules policy cs).Nodup :=
  (order_perm_range rules policy cs).nodup_iff.2 List.nodup_range

theorem mem_order_of_getElem? {rules : RuleSet} {policy : FixPolicy} {cs : List (Candidate t)}
    {a : Nat} {x : Candidate t} (h : cs[a]? = some x) : a ∈ order rules policy cs :=
  (order_perm_range rules policy cs).mem_iff.2
    (List.mem_range.2 (List.getElem?_eq_some_iff.1 h).1)

/-! ## Losers -/

/-- The lost candidacies, by number in the list of candidates. -/
def lost (rules : RuleSet) (policy : FixPolicy) (findings : List (Finding t)) : List (Nat × Nat) :=
  elect (Span.conflictingPairs ((candidates findings).map (·.span)))
    (order rules policy (candidates findings)) []

theorem mem_losers_iff {rules : RuleSet} {policy : FixPolicy} {findings : List (Finding t)}
    {i : Nat} {winner : String} :
    (i, winner) ∈ losers rules policy findings ↔
      ∃ c w x y, (c, w) ∈ lost rules policy findings ∧
        (candidates findings)[c]? = some x ∧ (candidates findings)[w]? = some y ∧
        x.position = i ∧ y.finding.diagnostic.rule = winner := by
  unfold losers
  simp only [List.mem_filterMap]
  constructor
  · intro h
    obtain ⟨⟨c, w⟩, hmem, h⟩ := h
    obtain ⟨x, hx, h⟩ := Option.bind_eq_some_iff.1 h
    obtain ⟨y, hy, h⟩ := Option.bind_eq_some_iff.1 h
    cases h
    exact ⟨c, w, x, y, hmem, hx, hy, rfl, rfl⟩
  · intro h
    obtain ⟨c, w, x, y, hmem, hx, hy, rfl, rfl⟩ := h
    exact ⟨(c, w), hmem, by simp [hx, hy]⟩

theorem exists_of_getElem?_span {findings : List (Finding t)} {w : Nat} {s : Span}
    (h : ((candidates findings).map (·.span))[w]? = some s) :
    ∃ y, (candidates findings)[w]? = some y := by
  rw [List.getElem?_map, Option.map_eq_some_iff] at h
  obtain ⟨y, hy, -⟩ := h
  exact ⟨y, hy⟩

/-- The winner of a lost candidacy is a candidate as well. -/
theorem exists_winner {rules : RuleSet} {policy : FixPolicy} {findings : List (Finding t)}
    {c w : Nat} (h : (c, w) ∈ lost rules policy findings) :
    ∃ y, (candidates findings)[w]? = some y := by
  rcases mem_opponents_iff.1 (mem_opponents_of_mem_elect h) with hp | hp
  · obtain ⟨-, s, s', -, hw, -⟩ := Span.mem_conflictingPairs_iff.1 hp
    exact exists_of_getElem?_span hw
  · obtain ⟨-, s, s', hw, -, -⟩ := Span.mem_conflictingPairs_iff.1 hp
    exact exists_of_getElem?_span hw

/-- No finding loses twice. -/
theorem nodup_losers (rules : RuleSet) (policy : FixPolicy) (findings : List (Finding t)) :
    ((losers rules policy findings).map (·.1)).Nodup := by
  have hlost : (lost rules policy findings).Pairwise fun p q => p.1 ≠ q.1 := by
    have hn := (nodup_order rules policy (candidates findings)).sublist
      (elect_sublist (Span.conflictingPairs ((candidates findings).map (·.span))) _ [])
    exact List.pairwise_map.1 hn
  unfold losers
  simp only [List.Nodup, List.pairwise_map, List.pairwise_filterMap]
  refine hlost.imp fun {p q} hpq a ha b hb hab => hpq ?_
  obtain ⟨x, hx, h⟩ := Option.bind_eq_some_iff.1 ha
  obtain ⟨_, -, h⟩ := Option.bind_eq_some_iff.1 h
  cases h
  obtain ⟨y, hy, h⟩ := Option.bind_eq_some_iff.1 hb
  obtain ⟨_, -, h⟩ := Option.bind_eq_some_iff.1 h
  cases h
  exact eq_of_position_eq hx hy hab

theorem state_of_proposedFix? {d : Diagnostic} {fix : Fix} (h : d.proposedFix? = some fix) :
    d.state = .fixProposed := by
  unfold Diagnostic.proposedFix? at h
  split at h
  next hs => exact hs
  next => cases h

/-- Only a proposed fix can lose. -/
theorem proposed_of_mem_losers {rules : RuleSet} {policy : FixPolicy} {findings : List (Finding t)}
    {i : Nat} {winner : String} (h : (i, winner) ∈ losers rules policy findings) :
    ∃ f, findings[i]? = some f ∧ f.diagnostic.state = .fixProposed := by
  obtain ⟨c, w, x, y, -, hx, -, rfl, -⟩ := mem_losers_iff.1 h
  obtain ⟨hget, fix, hfix, -⟩ := mem_candidates_iff.1 (List.mem_of_getElem? hx)
  exact ⟨x.finding, hget, state_of_proposedFix? hfix⟩

theorem reject_of_proposed {d : Diagnostic} (winner : String) (h : d.state = .fixProposed) :
    reject d winner = { d with
      state := .rejected, fixes := []
      note := some ("manual: conflicts with fix from `" ++ winner ++ "`") } := by
  unfold reject Diagnostic.transition
  rw [h]
  rfl

end Conflict

/-! ## What conflict resolution does to a finding -/

variable {t : SyntaxTree} {rules : RuleSet} {policy : FixPolicy} {findings : List (Finding t)}

/-- A finding after conflict resolution: as it was, if it did not lose; or proposed before and
withdrawn now. -/
theorem resolveConflicts_cases {i : Nat} {g : Finding t}
    (h : (resolveConflicts rules policy findings).1[i]? = some g) :
    (findings[i]? = some g ∧ i ∉ (Conflict.losers rules policy findings).map (·.1)) ∨
    ∃ f winner, findings[i]? = some f ∧ (i, winner) ∈ Conflict.losers rules policy findings ∧
      f.diagnostic.state = .fixProposed ∧
      g = { f with diagnostic := Conflict.reject f.diagnostic winner } := by
  unfold resolveConflicts at h
  simp only [List.getElem?_map, List.getElem?_zipIdx, Option.map_map, Option.map_eq_some_iff,
    Function.comp_apply, Nat.zero_add] at h
  obtain ⟨f, hf, h⟩ := h
  split at h
  next j winner hfind =>
    have hmem := List.mem_of_find?_eq_some hfind
    have hj : j = i := by simpa using List.find?_some hfind
    subst hj
    obtain ⟨f', hf', hstate⟩ := Conflict.proposed_of_mem_losers hmem
    rw [hf, Option.some.injEq] at hf'
    subst hf'
    exact Or.inr ⟨f, winner, hf, hmem, hstate, h.symm⟩
  next hfind =>
    subst h
    refine Or.inl ⟨hf, fun hmem => ?_⟩
    obtain ⟨p, hp, hpi⟩ := List.mem_map.1 hmem
    exact List.find?_eq_none.1 hfind p hp (by simpa using hpi)

theorem length_resolveConflicts (rules : RuleSet) (policy : FixPolicy)
    (findings : List (Finding t)) :
    (resolveConflicts rules policy findings).1.length = findings.length := by
  simp [resolveConflicts]

/-- Where no two spans overlap nobody loses. -/
theorem resolveConflicts_of_no_conflict
    (h : Span.conflictingPairs ((Conflict.candidates findings).map (·.span)) = []) :
    resolveConflicts rules policy findings = (findings, 0) := by
  have hlosers : Conflict.losers rules policy findings = [] := by
    unfold Conflict.losers
    simp only [h, Conflict.elect_nil, List.filterMap_nil]
  unfold resolveConflicts
  simp only [hlosers, List.find?_nil, List.length_nil, Prod.mk.injEq, and_true]
  exact List.zipIdx_map_fst 0 findings

/-- A fix that is still proposed was proposed before and did not lose. -/
theorem not_lost_of_proposed {i : Nat} {g : Finding t} {fix : Fix}
    (h : (resolveConflicts rules policy findings).1[i]? = some g)
    (hfix : g.diagnostic.proposedFix? = some fix) :
    findings[i]? = some g ∧ i ∉ (Conflict.losers rules policy findings).map (·.1) := by
  rcases resolveConflicts_cases h with hsame | ⟨f, winner, -, -, hstate, rfl⟩
  · exact hsame
  · have hs := Conflict.state_of_proposedFix? hfix
    rw [Conflict.reject_of_proposed winner hstate] at hs
    cases hs

/-- The spans of two fixes that are still proposed do not overlap. -/
theorem resolveConflicts_spans_apart {i j : Nat} {f g : Finding t} {F G : Fix} {s s' : Span}
    (hij : i ≠ j)
    (hf : (resolveConflicts rules policy findings).1[i]? = some f)
    (hg : (resolveConflicts rules policy findings).1[j]? = some g)
    (hF : f.diagnostic.proposedFix? = some F) (hG : g.diagnostic.proposedFix? = some G)
    (hs : F.span? = some s) (hs' : G.span? = some s') : s.overlaps s' = false := by
  obtain ⟨hfi, hi⟩ := not_lost_of_proposed hf hF
  obtain ⟨hgj, hj⟩ := not_lost_of_proposed hg hG
  -- both take part in the election, as candidates number `a` and `b`
  have hx : (⟨i, f, s⟩ : Conflict.Candidate t) ∈ Conflict.candidates findings :=
    Conflict.mem_candidates_iff.2 ⟨hfi, F, hF, hs⟩
  have hy : (⟨j, g, s'⟩ : Conflict.Candidate t) ∈ Conflict.candidates findings :=
    Conflict.mem_candidates_iff.2 ⟨hgj, G, hG, hs'⟩
  obtain ⟨a, ha⟩ := List.mem_iff_getElem?.1 hx
  obtain ⟨b, hb⟩ := List.mem_iff_getElem?.1 hy
  have hab : b ≠ a := by
    intro heq
    rw [heq, ha, Option.some.injEq, Conflict.Candidate.mk.injEq] at hb
    exact hij hb.1
  have hkept : ∀ {k c : Nat} {x : Conflict.Candidate t},
      (Conflict.candidates findings)[c]? = some x → x.position = k →
      k ∉ (Conflict.losers rules policy findings).map (·.1) →
      c ∉ (Conflict.lost rules policy findings).map (·.1) := by
    intro k c x hc hk hnot hmem
    obtain ⟨⟨c', w⟩, hcw, rfl⟩ := List.mem_map.1 hmem
    obtain ⟨y, hy⟩ := Conflict.exists_winner hcw
    exact hnot (List.mem_map.2 ⟨(k, y.finding.diagnostic.rule),
      Conflict.mem_losers_iff.2 ⟨c', w, x, y, hcw, hc, hy, hk, rfl⟩, rfl⟩)
  have hopp := (Conflict.not_mem_opponents_of_not_lost
    (Conflict.nodup_order rules policy (Conflict.candidates findings))
    (Conflict.mem_order_of_getElem? ha) (hkept ha rfl hi)).2 b
    (Conflict.mem_order_of_getElem? hb) hab (hkept hb rfl hj)
  rw [Conflict.mem_opponents_iff, not_or, Span.mem_conflictingPairs_iff,
    Span.mem_conflictingPairs_iff] at hopp
  have hsa : ((Conflict.candidates findings).map (·.span))[a]? = some s := by
    rw [List.getElem?_map, ha, Option.map_some]
  have hsb : ((Conflict.candidates findings).map (·.span))[b]? = some s' := by
    rw [List.getElem?_map, hb, Option.map_some]
  rw [Bool.eq_false_iff]
  intro hov
  rcases Nat.lt_or_ge a b with hlt | hge
  · exact hopp.1 ⟨hlt, s, s', hsa, hsb, hov⟩
  · exact hopp.2 ⟨by omega, s', s, hsb, hsa, Span.overlaps_comm s s' ▸ hov⟩

end TypeLint
