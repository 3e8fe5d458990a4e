import TypeLint.Proofs.Analysis.LifeCycle
import TypeLint.Proofs.StableSort

/-!
# Fixes are elected greedily

Conflict resolution goes through the proposed fixes by rank and takes each one unless it clashes with
one taken before. What it leaves behind can be said without the election: a fix is still proposed
exactly when it clashes with no fix of better rank that is still proposed (`resolveConflicts_greedy`).

The election is followed step by step in `mem_elect`: whoever loses, loses to somebody who came before
in the order of election and did not lose. The order of election is the order of ranks, and of equal
ranks the order of the findings, because the sort is stable (`pairwise_order`). The rest is a matter of
going back and forth between findings, candidates and their numbers.
-/

namespace TypeLint

variable {t : SyntaxTree}

/-- Which of two rules, given by their places, the policy prefers. -/
def FixPolicy.Prefers (policy : FixPolicy) (i j : Nat) : Prop :=
  match policy with
  | .firstRegistered => i < j
  | .lastRegistered => j < i

namespace Conflict

/-! ## Ranks -/

theorem rankBefore_iff {a b : Int × Int × Nat} :
    rankBefore a b = true ↔
      a.1 < b.1 ∨ (a.1 = b.1 ∧ (a.2.1 < b.2.1 ∨ (a.2.1 = b.2.1 ∧ a.2.2 ≤ b.2.2))) := by
  simp [rankBefore]

theorem rankBefore_trans (a b c : Int × Int × Nat) (h1 : rankBefore a b = true)
    (h2 : rankBefore b c = true) : rankBefore a c = true := by
  rw [rankBefore_iff] at h1 h2 ⊢
  omega

theorem rankBefore_total (a b : Int × Int × Nat) : (rankBefore a b || rankBefore b a) = true := by
  rw [Bool.or_eq_true, rankBefore_iff, rankBefore_iff]
  omega

/-- The finding `f` at position `i` comes before the finding `g` at position `j`: its rank is better,
or the ranks are equal and it stands earlier. -/
def Outranks (rules : RuleSet) (policy : FixPolicy) (f : Finding t) (i : Nat) (g : Finding t)
    (j : Nat) : Prop :=
  rankBefore (rankOf rules policy f) (rankOf rules policy g) = true ∧
    (rankBefore (rankOf rules policy g) (rankOf rules policy f) = true → i < j)

theorem not_outranks_self (rules : RuleSet) (policy : FixPolicy) (f : Finding t) (i : Nat) :
    ¬ Outranks rules policy f i f i := fun h => Nat.lt_irrefl i (h.2 h.1)

/-- Between findings of rules of the set: the higher priority, then the place of the rule, then where
the hit starts, then the position. -/
theorem outranks_iff {rules : RuleSet} {policy : FixPolicy} {f g : Finding t} {i j : Nat}
    {r s : Rule} (hr : rules.rule? f.hit.rule = some r) (hs : rules.rule? g.hit.rule = some s) :
    Outranks rules policy f i g j ↔
      s.priority.getD 0 < r.priority.getD 0 ∨
      (s.priority.getD 0 = r.priority.getD 0 ∧
        (policy.Prefers f.hit.rule g.hit.rule ∨
        (f.hit.rule = g.hit.rule ∧
          (f.hit.span.start < g.hit.span.start ∨
          (f.hit.span.start = g.hit.span.start ∧ i < j))))) := by
  unfold Outranks rankOf rank FixPolicy.Prefers
  simp only [hr, hs, rankBefore_iff]
  cases policy <;> simp only <;> omega

/-- The candidates are elected by rank; of equal rank, the earlier one first. -/
theorem pairwise_order (rules : RuleSet) (policy : FixPolicy) (cs : List (Candidate t)) :
    (order rules policy cs).Pairwise fun a b => ∀ x y, cs[a]? = some x → cs[b]? = some y →
      rankBefore (rankOf rules policy x.finding) (rankOf rules policy y.finding) = true ∧
      (rankBefore (rankOf rules policy y.finding) (rankOf rules policy x.finding) = true →
        a < b) := by
  have hsorted := pairwise_mergeSort_ties
    (fun p q r : Candidate t × Nat => rankBefore_trans (rankOf rules policy p.1.finding)
      (rankOf rules policy q.1.finding) (rankOf rules policy r.1.finding))
    (fun p q => rankBefore_total _ _) cs.zipIdx (pairwise_zipIdx cs)
  unfold order
  rw [List.pairwise_map]
  refine hsorted.imp_of_mem fun {p q} hp hq h x y hx hy => ?_
  rw [List.mem_mergeSort, List.mem_zipIdx_iff_getElem?] at hp hq
  rw [hp, Option.some.injEq] at hx
  rw [hq, Option.some.injEq] at hy
  rw [← hx, ← hy]
  exact h

/-! ## Who loses, and to whom -/

/-- Whoever loses, loses to somebody who was taken before and is not among the losers. -/
theorem mem_elect {pairs : List (Nat × Nat)} {c w : Nat} :
    ∀ {order taken : List Nat}, order.Nodup → (∀ o ∈ taken, o ∉ order) →
      (c, w) ∈ elect pairs order taken →
      (w ∈ taken ∨ [w, c].Sublist order) ∧ w ∉ (elect pairs order taken).map (·.1)
  | [], _, _, _, h => by simp [elect] at h
  | d :: rest, taken, hn, hapart, h => by
    obtain ⟨hd, hrest⟩ := List.nodup_cons.1 hn
    have hapart' : ∀ o ∈ taken, o ∉ rest := fun o ho hmem =>
      hapart o ho (List.mem_cons_of_mem _ hmem)
    rw [elect] at h ⊢
    split at h
    next hfind =>
      -- `d` is taken, and may be the winner
      have htaken : ∀ o ∈ d :: taken, o ∉ rest := by
        intro o ho
        rcases List.mem_cons.1 ho with rfl | ho
        · exact hd
        · exact hapart' o ho
      obtain ⟨hw, hwins⟩ := mem_elect hrest htaken h
      refine ⟨?_, hwins⟩
      rcases hw with hw | hw
      · rcases List.mem_cons.1 hw with rfl | hw
        · have hc : c ∈ rest := (elect_sublist pairs rest _).subset (List.mem_map_of_mem h)
          exact Or.inr ((List.singleton_sublist.2 hc).cons_cons w)
        · exact Or.inl hw
      · exact Or.inr (hw.cons _)
    next winner hfind =>
      simp only [List.map_cons, List.mem_cons, not_or]
      rcases List.mem_cons.1 h with heq | h
      · cases heq
        have hw : w ∈ taken := by simpa using List.find?_some hfind
        refine ⟨Or.inl hw, fun he => hapart w hw (he ▸ List.mem_cons_self ..), fun hmem => ?_⟩
        exact hapart' w hw ((elect_sublist pairs rest taken).subset hmem)
      · obtain ⟨hw, hwins⟩ := mem_elect hrest hapart' h
        refine ⟨hw.imp_right fun hsub => hsub.cons _, fun he => ?_, hwins⟩
        -- the winner was taken before or comes later, and `d` did neither
        subst he
        rcases hw with hw | hw
        · exact hapart w hw (List.mem_cons_self ..)
        · exact hd (hw.subset (List.mem_cons_self ..))

/-! ## Findings -/

/-- The span that covers what a finding proposes. -/
def cover? (f : Finding t) : Option Span := f.diagnostic.proposedFix?.bind Fix.span?

/-- Both findings propose a fix, and the fixes cover overlapping spans. -/
def Clash (f g : Finding t) : Prop :=
  ∃ s s', cover? f = some s ∧ cover? g = some s' ∧ s.overlaps s' = true

/-- After conflict resolution the finding at position `i` still proposes its fix. -/
def Survives (rules : RuleSet) (policy : FixPolicy) (findings : List (Finding t)) (i : Nat) : Prop :=
  ∃ f, (resolveConflicts rules policy findings).1[i]? = some f ∧ f.diagnostic.state = .fixProposed

variable {rules : RuleSet} {policy : FixPolicy} {findings : List (Finding t)}

/-- A finding is as it was, or it lost and its fix is withdrawn. -/
theorem resolveConflicts_at {i : Nat} {f : Finding t} (hf : findings[i]? = some f) :
    ((resolveConflicts rules policy findings).1[i]? = some f ∧
      i ∉ (losers rules policy findings).map (·.1)) ∨
    ∃ fix winner, f.diagnostic.proposedFix? = some fix ∧ (i, winner) ∈ losers rules policy findings ∧
      (resolveConflicts rules policy findings).1[i]? = some { f with
        diagnostic := { f.diagnostic with
          state := .rejected, fixes := []
          note := some ("manual: conflicts with fix from `" ++ winner ++ "`") } } := by
  have hlt : i < (resolveConflicts rules policy findings).1.length := by
    rw [length_resolveConflicts]
    exact (List.getElem?_eq_some_iff.1 hf).1
  have hg := List.getElem?_eq_getElem hlt
  rcases resolveConflicts_cases hg with ⟨hsame, hnot⟩ | ⟨f', winner, hf', hlost, hstate, hreject⟩
  · rw [hf, Option.some.injEq] at hsame
    exact Or.inl ⟨hsame ▸ hg, hnot⟩
  · rw [hf, Option.some.injEq] at hf'
    subst hf'
    obtain ⟨c, w, x, y, -, hx, -, rfl, -⟩ := mem_losers_iff.1 hlost
    obtain ⟨hget, fix, hfix, -⟩ := mem_candidates_iff.1 (List.mem_of_getElem? hx)
    rw [hf, Option.some.injEq] at hget
    rw [← hget] at hfix
    rw [reject_of_proposed winner hstate] at hreject
    exact Or.inr ⟨fix, winner, hfix, hlost, by rw [hg, hreject]⟩

theorem survives_of_not_lost {i : Nat} {f : Finding t} (hf : findings[i]? = some f)
    (hstate : f.diagnostic.state = .fixProposed)
    (hnot : i ∉ (losers rules policy findings).map (·.1)) : Survives rules policy findings i := by
  rcases resolveConflicts_at hf with ⟨hsame, -⟩ | ⟨-, winner, -, hlost, -⟩
  · exact ⟨f, hsame, hstate⟩
  · exact absurd (List.mem_map_of_mem hlost) hnot

theorem unchanged_of_survives {i : Nat} {f : Finding t} (hf : findings[i]? = some f)
    (h : Survives rules policy findings i) :
    (resolveConflicts rules policy findings).1[i]? = some f := by
  rcases resolveConflicts_at hf with ⟨hsame, -⟩ | ⟨-, winner, -, -, hreject⟩
  · exact hsame
  · obtain ⟨g, hg, hstate⟩ := h
    rw [hreject, Option.some.injEq] at hg
    rw [← hg] at hstate
    cases hstate

/-- Two fixes that are still proposed do not clash. -/
theorem not_clash_of_survive {i j : Nat} {f g : Finding t} (hij : i ≠ j)
    (hf : (resolveConflicts rules policy findings).1[i]? = some f)
    (hg : (resolveConflicts rules policy findings).1[j]? = some g) : ¬ Clash f g := by
  rintro ⟨s, s', hs, hs', hov⟩
  obtain ⟨fix, hfix, hspan⟩ := Option.bind_eq_some_iff.1 hs
  obtain ⟨fix', hfix', hspan'⟩ := Option.bind_eq_some_iff.1 hs'
  rw [resolveConflicts_spans_apart hij hf hg hfix hfix' hspan hspan'] at hov
  cases hov

theorem cover?_of_mem_candidates {c : Candidate t} (h : c ∈ candidates findings) :
    findings[c.position]? = some c.finding ∧ c.finding.diagnostic.state = .fixProposed ∧
      cover? c.finding = some c.span := by
  obtain ⟨hget, fix, hfix, hspan⟩ := mem_candidates_iff.1 h
  exact ⟨hget, state_of_proposedFix? hfix, by rw [cover?, hfix, Option.bind_some, hspan]⟩

/-- The spans of a lost candidacy and of the one that it was lost to overlap. -/
theorem overlaps_of_lost {c w : Nat} {x y : Candidate t} (h : (c, w) ∈ lost rules policy findings)
    (hx : (candidates findings)[c]? = some x) (hy : (candidates findings)[w]? = some y) :
    x.span.overlaps y.span = true := by
  have hspan : ∀ {k : Nat} {z : Candidate t} {s : Span}, (candidates findings)[k]? = some z →
      ((candidates findings).map (·.span))[k]? = some s → z.span = s := by
    intro k z s hz hs
    rw [List.getElem?_map, hz, Option.map_some, Option.some.injEq] at hs
    exact hs
  rcases mem_opponents_iff.1 (mem_opponents_of_mem_elect h) with hp | hp
  · obtain ⟨-, s, s', hs, hs', hov⟩ := Span.mem_conflictingPairs_iff.1 hp
    rw [hspan hx hs, hspan hy hs']
    exact hov
  · obtain ⟨-, s, s', hs, hs', hov⟩ := Span.mem_conflictingPairs_iff.1 hp
    rw [hspan hx hs', hspan hy hs, Span.overlaps_comm]
    exact hov

/-- A finding loses to one of better rank whose fix is still proposed and clashes with its own. -/
theorem exists_survivor_of_lost {i : Nat} {winner : String} {f : Finding t}
    (hf : findings[i]? = some f) (h : (i, winner) ∈ losers rules policy findings) :
    ∃ j g, findings[j]? = some g ∧ Outranks rules policy g j f i ∧
      Survives rules policy findings j ∧ Clash f g ∧ g.diagnostic.rule = winner := by
  obtain ⟨c, w, x, y, hlost, hx, hy, rfl, rfl⟩ := mem_losers_iff.1 h
  obtain ⟨hgetx, -, hcover⟩ := cover?_of_mem_candidates (List.mem_of_getElem? hx)
  obtain ⟨hgety, hstate, hcover'⟩ := cover?_of_mem_candidates (List.mem_of_getElem? hy)
  rw [hf, Option.some.injEq] at hgetx
  subst hgetx
  obtain ⟨hbefore, hwins⟩ := mem_elect (nodup_order rules policy (candidates findings))
    (fun o ho => absurd ho List.not_mem_nil) hlost
  have hsub := hbefore.resolve_left List.not_mem_nil
  obtain ⟨hrank, hties⟩ := List.pairwise_iff_forall_sublist.1
    (pairwise_order rules policy (candidates findings)) hsub y x hy hx
  refine ⟨y.position, y.finding, hgety, ⟨hrank, fun htie => ?_⟩, ?_, ?_, rfl⟩
  · exact position_lt_of_lt hy hx (hties htie)
  · -- a position belongs to one candidate, so the winner's is not that of a loser
    refine survives_of_not_lost hgety hstate fun hmem => ?_
    obtain ⟨⟨k, name⟩, hk, hpos⟩ := List.mem_map.1 hmem
    obtain ⟨c', w', x', y', hlost', hx', -, hx'pos, -⟩ := mem_losers_iff.1 hk
    have hsame : c' = w := eq_of_position_eq hx' hy (hx'pos.trans hpos)
    exact hwins (hsame ▸ List.mem_map_of_mem hlost')
  · exact ⟨x.span, y.span, hcover, hcover', overlaps_of_lost hlost hx hy⟩

/-- The number that conflict resolution answers is that of the findings whose fix it withdrew. -/
theorem countP_rejected (rules : RuleSet) (policy : FixPolicy) (findings : List (Finding t)) :
    (resolveConflicts rules policy findings).2 =
      (List.range findings.length).countP fun i =>
        findings[i]?.any (·.diagnostic.state == .fixProposed) &&
        (resolveConflicts rules policy findings).1[i]?.any (·.diagnostic.state == .rejected) := by
  show (losers rules policy findings).length = _
  rw [← countP_losers]
  refine List.countP_congr fun i hi => ?_
  have hf := List.getElem?_eq_getElem (List.mem_range.1 hi)
  have hat := @resolveConflicts_at _ rules policy _ _ _ hf
  obtain ⟨hsame, hnot⟩ | ⟨fix, winner, hfix, hlost, hreject⟩ := hat
  · rw [hsame, hf, decide_eq_true_eq]
    refine ⟨fun h => absurd h hnot, fun h => ?_⟩
    -- a finding that is as it was is not proposed and rejected at once
    simp only [Option.any_some, Bool.and_eq_true, beq_iff_eq] at h
    rw [h.1] at h
    cases h.2
  · rw [hreject, hf, decide_eq_true_eq]
    simp only [Option.any_some, state_of_proposedFix? hfix]
    exact ⟨fun _ => rfl, fun _ => List.mem_map_of_mem hlost⟩

end Conflict

open Conflict in
/-- **Conflict resolution is the greedy choice by rank.** A proposed fix is still proposed exactly when
it clashes with no fix of better rank that is still proposed. So the fixes that survive do not clash,
every other one clashes with a survivor of better rank and its note names the rule of such a one; the
number answered is that of the fixes withdrawn, and everything else is as it was. -/
theorem resolveConflicts_greedy (rules : RuleSet) (policy : FixPolicy)
    (findings : List (Finding t)) :
    (∀ (f g : Finding t) (i j : Nat) (r s : Rule), rules.rule? f.hit.rule = some r →
      rules.rule? g.hit.rule = some s →
      (Outranks rules policy f i g j ↔
        s.priority.getD 0 < r.priority.getD 0 ∨
        (s.priority.getD 0 = r.priority.getD 0 ∧
          (policy.Prefers f.hit.rule g.hit.rule ∨
          (f.hit.rule = g.hit.rule ∧
            (f.hit.span.start < g.hit.span.start ∨
            (f.hit.span.start = g.hit.span.start ∧ i < j))))))) ∧
    (∀ (i : Nat) (f : Finding t) (fix : Fix), findings[i]? = some f →
      f.diagnostic.proposedFix? = some fix →
      (Survives rules policy findings i ↔
        ∀ (j : Nat) (g : Finding t), findings[j]? = some g → Outranks rules policy g j f i →
          Survives rules policy findings j → ¬ Clash f g)) ∧
    (∀ (i j : Nat) (f g : Finding t), i ≠ j →
      (resolveConflicts rules policy findings).1[i]? = some f →
      (resolveConflicts rules policy findings).1[j]? = some g → ¬ Clash f g) ∧
    (∀ (i : Nat) (f : Finding t) (fix : Fix), findings[i]? = some f →
      f.diagnostic.proposedFix? = some fix →
      ¬ Survives rules policy findings i →
      ∃ (j : Nat) (g : Finding t), findings[j]? = some g ∧ Outranks rules policy g j f i ∧
        Survives rules policy findings j ∧ Clash f g ∧
        (resolveConflicts rules policy findings).1[i]? = some { f with
          diagnostic := { f.diagnostic with
            state := .rejected, fixes := []
            note := some ("manual: conflicts with fix from `" ++ g.diagnostic.rule ++ "`") } }) ∧
    (resolveConflicts rules policy findings).2 =
      (List.range findings.length).countP (fun i =>
        findings[i]?.any (·.diagnostic.state == .fixProposed) &&
        (resolveConflicts rules policy findings).1[i]?.any (·.diagnostic.state == .rejected)) ∧
    (∀ (i : Nat) (f : Finding t), findings[i]? = some f →
      f.diagnostic.proposedFix? = none ∨ Survives rules policy findings i →
      (resolveConflicts rules policy findings).1[i]? = some f) ∧
    (resolveConflicts rules policy findings).1.length = findings.length := by
  have hloser : ∀ (i : Nat) (f : Finding t) (fix : Fix), findings[i]? = some f →
      f.diagnostic.proposedFix? = some fix →
      ¬ Survives rules policy findings i → ∃ winner, (i, winner) ∈ losers rules policy findings ∧
        (resolveConflicts rules policy findings).1[i]? = some { f with
          diagnostic := { f.diagnostic with
            state := .rejected, fixes := []
            note := some ("manual: conflicts with fix from `" ++ winner ++ "`") } } := by
    intro i f fix hf hfix hgone
    rcases resolveConflicts_at hf with ⟨hsame, -⟩ | ⟨-, winner, -, hlost, hreject⟩
    · exact absurd ⟨f, hsame, state_of_proposedFix? hfix⟩ hgone
    · exact ⟨winner, hlost, hreject⟩
  refine ⟨fun f g i j r s => outranks_iff, ?_, fun i j f g => not_clash_of_survive, ?_,
    countP_rejected rules policy findings, ?_, length_resolveConflicts rules policy findings⟩
  · intro i f fix hf hfix
    constructor
    · intro hi j g hg hrank hj
      have hij : i ≠ j := by
        rintro rfl
        rw [hf, Option.some.injEq] at hg
        exact not_outranks_self rules policy f i (hg ▸ hrank)
      exact not_clash_of_survive hij (unchanged_of_survives hf hi) (unchanged_of_survives hg hj)
    · intro hfree
      by_contra hgone
      obtain ⟨winner, hlost, -⟩ := hloser i f fix hf hfix hgone
      obtain ⟨j, g, hg, hrank, hj, hclash, -⟩ := exists_survivor_of_lost hf hlost
      exact hfree j g hg hrank hj hclash
  · intro i f fix hf hfix hgone
    obtain ⟨winner, hlost, hreject⟩ := hloser i f fix hf hfix hgone
    obtain ⟨j, g, hg, hrank, hj, hclash, rfl⟩ := exists_survivor_of_lost hf hlost
    exact ⟨j, g, hg, hrank, hj, hclash, hreject⟩
  · rintro i f hf (hnone | hi)
    · rcases resolveConflicts_at hf with ⟨hsame, -⟩ | ⟨fix, -, hfix, -⟩
      · exact hsame
      · rw [hnone] at hfix
        cases hfix
    · exact unchanged_of_survives hf hi

end TypeLint
