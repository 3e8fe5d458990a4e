import Mathlib.Data.List.Induction
import TypeLint.Proofs.Analysis.Election
import TypeLint.Proofs.Analysis.Restriction

/-!
# Rules under new numbers

Leaving rules out of a set gives the others new numbers. The one phase to whom the numbers mean
something is the election: the rank of a fix is, after its priority, the number of its rule. But ranks
are only compared, so where they compare alike the same findings lose to the same rules
(`resolveConflicts_renumbered`), and a renumbering that keeps the order of the rules changes nobody's
rank among the others (`KeepsOrder.ranksAlike`).

`RuleSet.only` is a set without the rules that fail a test, `RuleSet.place` the new numbers of those
that pass. They keep their order (`place_lt_iff`), so all of `Restriction` and of the election applies
(`restricts_only`, and `restricts_named` for a test of names).
-/

namespace TypeLint

/-! ## The election under new numbers -/

/-- The finding with its hit under another number. -/
def Finding.renumbered {t : SyntaxTree} (number : Nat → Nat) (f : Finding t) : Finding t :=
  { f with hit := { f.hit with rule := number f.hit.rule } }

namespace Conflict

variable {t : SyntaxTree} {whole part : RuleSet} {policy policy' : FixPolicy} {number : Nat → Nat}
  {findings : List (Finding t)}

/-- The rules of the findings have the same priorities under their new numbers, and the same
order. -/
structure KeepsOrder (whole part : RuleSet) (number : Nat → Nat) (findings : List (Finding t)) :
    Prop where
  priority : ∀ f ∈ findings, ∃ r r', whole.rule? f.hit.rule = some r ∧
    part.rule? (number f.hit.rule) = some r' ∧ r'.priority = r.priority
  lt_iff : ∀ f ∈ findings, ∀ g ∈ findings,
    (number f.hit.rule < number g.hit.rule ↔ f.hit.rule < g.hit.rule)

theorem rankBefore_congr {p p' o o' n n' : Int} (s s' : Nat) (hlt : n < n' ↔ o < o')
    (hgt : n' < n ↔ o' < o) : rankBefore (p, n, s) (p', n', s') = rankBefore (p, o, s) (p', o', s') := by
  -- neither number is below the other exactly when they are equal
  have heq : n = n' ↔ o = o' := by omega
  simp only [rankBefore, Bool.beq_eq_decide_eq, hlt, heq]

/-- The findings compare by their old numbers, in one set under one policy, as they do by their new
numbers in another set, perhaps under another policy. -/
def RanksAlike (whole : RuleSet) (policy : FixPolicy) (part : RuleSet) (policy' : FixPolicy)
    (number : Nat → Nat) (findings : List (Finding t)) : Prop :=
  ∀ f ∈ findings, ∀ g ∈ findings,
    rankBefore (rankOf part policy' (f.renumbered number)) (rankOf part policy' (g.renumbered number))
      = rankBefore (rankOf whole policy f) (rankOf whole policy g)

theorem KeepsOrder.ranksAlike (h : KeepsOrder whole part number findings) (policy : FixPolicy) :
    RanksAlike whole policy part policy number findings := by
  intro f hf g hg
  obtain ⟨r, r', hr, hr', hrank⟩ := h.priority f hf
  obtain ⟨s, s', hs, hs', hrank'⟩ := h.priority g hg
  have hlt := h.lt_iff f hf g hg
  have hgt := h.lt_iff g hg f hf
  unfold rankOf rank Finding.renumbered
  simp only [hr, hr', hs, hs', hrank, hrank']
  refine rankBefore_congr _ _ ?_ ?_
  · cases policy <;> simp only <;> omega
  · cases policy <;> simp only <;> omega

/-- The candidate with its finding under another number. -/
def Candidate.renumbered (number : Nat → Nat) (c : Candidate t) : Candidate t :=
  { c with finding := c.finding.renumbered number }

theorem candidates_renumbered (number : Nat → Nat) (findings : List (Finding t)) :
    candidates (findings.map (·.renumbered number)) =
      (candidates findings).map (·.renumbered number) := by
  unfold candidates
  rw [List.zipIdx_map, List.filterMap_map, List.map_filterMap]
  refine List.filterMap_congr fun e _ => ?_
  show Option.map _ (e.1.diagnostic.proposedFix?.bind Fix.span?) = Option.map _ (Option.map _ _)
  rw [Option.map_map]
  rfl

/-- The candidates are elected in the same order. -/
theorem order_renumbered (h : RanksAlike whole policy part policy' number findings) :
    order part policy' ((candidates findings).map (·.renumbered number)) =
      order whole policy (candidates findings) := by
  have hmem : ∀ e ∈ (candidates findings).zipIdx, e.1.finding ∈ findings := by
    intro e he
    have hc := List.mem_of_getElem? (List.mem_zipIdx_iff_getElem?.1 he)
    exact List.mem_of_getElem? (mem_candidates_iff.1 hc).1
  unfold order
  rw [List.zipIdx_map, ← List.map_mergeSort, List.map_map]
  · rfl
  · intro a ha b hb
    exact (h _ (hmem a ha) _ (hmem b hb)).symm

/-- The same findings lose, each to the same rule. -/
theorem losers_renumbered (h : RanksAlike whole policy part policy' number findings) :
    losers part policy' (findings.map (·.renumbered number)) = losers whole policy findings := by
  have hspans : ((candidates findings).map (·.renumbered number)).map (·.span) =
      (candidates findings).map (·.span) := by
    rw [List.map_map]
    rfl
  unfold losers
  simp only [candidates_renumbered, order_renumbered h, hspans]
  refine List.filterMap_congr fun e _ => ?_
  rw [List.getElem?_map, List.getElem?_map]
  cases (candidates findings)[e.1]? with
  | none => rfl
  | some loser =>
    cases (candidates findings)[e.2]? with
    | none => rfl
    | some winner => rfl

end Conflict

section

variable {t : SyntaxTree} {whole part : RuleSet} {policy policy' : FixPolicy} {number : Nat → Nat}
  {findings : List (Finding t)}

/-- **The numbers of the rules do not matter to the election, only how they compare.** -/
theorem resolveConflicts_renumbered
    (h : Conflict.RanksAlike whole policy part policy' number findings) :
    resolveConflicts part policy' (findings.map (·.renumbered number)) =
      ((resolveConflicts whole policy findings).1.map (·.renumbered number),
        (resolveConflicts whole policy findings).2) := by
  unfold resolveConflicts
  simp only [Conflict.losers_renumbered h, Prod.mk.injEq, and_true]
  rw [List.zipIdx_map, List.map_map, List.map_map]
  refine List.map_congr_left fun e _ => ?_
  simp only [Function.comp_apply, Prod.map_fst, Prod.map_snd, id_eq]
  split
  next => rfl
  next => rfl

theorem map_diagnostic_resolveConflicts_renumbered
    (h : Conflict.RanksAlike whole policy part policy' number findings) :
    (resolveConflicts part policy' (findings.map (·.renumbered number))).1.map (·.diagnostic) =
      (resolveConflicts whole policy findings).1.map (·.diagnostic) := by
  rw [resolveConflicts_renumbered h, List.map_map]
  rfl

end

/-! ## Leaving out the rules that fail a test -/

/-- Of a numbered list, those that pass a test have as many before them as passed before. -/
theorem zipIdx_filterMap_test {α β : Type} (q : α → Bool) (g : α → Nat → β) (l : List α) :
    (l.zipIdx.filterMap fun e => if q e.1 then some (g e.1 e.2) else none).zipIdx =
      l.zipIdx.filterMap fun e =>
        if q e.1 then some (g e.1 e.2, (l.take e.2).countP q) else none := by
  induction l using List.reverseRecOn with
  | nil => rfl
  | append_singleton l a ih =>
    have hlength : (l.zipIdx.filterMap fun e => if q e.1 then some (g e.1 e.2) else none).length =
        l.countP q := by
      nth_rewrite 2 [← List.zipIdx_map_fst 0 l]
      rw [List.length_filterMap_eq_countP, List.countP_map]
      refine List.countP_congr fun e _ => ?_
      cases h : q e.1 <;> simp [h]
    have hbefore : ∀ e ∈ l.zipIdx, (l ++ [a]).take e.2 = l.take e.2 := by
      intro e he
      exact List.take_append_of_le_length (Nat.le_of_lt (by simpa using List.snd_lt_add_of_mem_zipIdx he))
    rw [List.zipIdx_append, List.filterMap_append, List.zipIdx_append, List.filterMap_append, ih,
      hlength]
    -- those before `a` count what they counted, and `a` counts them all
    congr 1
    · exact List.filterMap_congr fun e he => by rw [hbefore e he]
    · cases h : q a <;> simp [h]

namespace RuleSet

variable {set : RuleSet} {q : Rule → Bool}

/-- The number of a rule among those that pass a test; one that fails it has none. -/
def place (set : RuleSet) (q : Rule → Bool) (i : Nat) : Option Nat :=
  (set.rule? i).bind fun r => if q r then some ((set.rules.take i).countP q) else none

/-- The rules that pass a test, each of which is told the number it had. -/
def only (set : RuleSet) (q : Rule → Bool) : RuleSet :=
  { set with
    rules := set.rules.zipIdx.filterMap fun e => if q e.1 then some (e.1.numbered e.2) else none }

theorem place_eq_some_iff {i k : Nat} :
    set.place q i = some k ↔
      ∃ r, set.rule? i = some r ∧ q r = true ∧ (set.rules.take i).countP q = k := by
  unfold place
  rw [Option.bind_eq_some_iff]
  refine exists_congr fun r => and_congr_right fun _ => ?_
  cases h : q r <;> simp

/-- Leaving rules out keeps the order of the others. -/
theorem place_lt_of_lt {i j k l : Nat} (hi : set.place q i = some k) (hj : set.place q j = some l)
    (hij : i < j) : k < l := by
  obtain ⟨r, hr, hq, rfl⟩ := place_eq_some_iff.1 hi
  obtain ⟨s, hs, -, rfl⟩ := place_eq_some_iff.1 hj
  -- the rule at `i` itself counts for every later one
  have hstep : (set.rules.take (i + 1)).countP q = (set.rules.take i).countP q + 1 := by
    rw [List.take_add_one, show set.rules[i]? = some r from hr, List.countP_append]
    simp [hq]
  have hle : (set.rules.take (i + 1)).countP q ≤ (set.rules.take j).countP q :=
    (List.take_sublist_take_left hij).countP_le
  omega

theorem place_lt_iff {i j k l : Nat} (hi : set.place q i = some k) (hj : set.place q j = some l) :
    k < l ↔ i < j := by
  constructor
  · intro hkl
    rcases Nat.lt_trichotomy i j with hij | rfl | hij
    · exact hij
    · rw [hi, Option.some.injEq] at hj
      omega
    · have := place_lt_of_lt hj hi hij
      omega
  · exact place_lt_of_lt hi hj

theorem isSome_place {i : Nat} {r : Rule} (hr : set.rule? i = some r) :
    (set.place q i).isSome = q r := by
  rw [place, hr, Option.bind_some]
  cases h : q r <;> simp

/-- The rules that pass a test are the whole set without the others. -/
theorem restricts_only (hw : set.WellFormed) (hu : set.Unambiguous) (q : Rule → Bool) :
    set.Restricts (set.only q) (set.place q) fun name =>
      set.rules.any fun r => q r && r.name == name where
  wellFormed := hw
  unambiguous := hu
  rules := by
    refine (zipIdx_filterMap_test q (fun r i => r.numbered i) set.rules).trans ?_
    refine List.filterMap_congr fun e he => ?_
    have hr : set.rule? e.2 = some e.1 := List.mem_zipIdx_iff_getElem?.1 he
    unfold place
    rw [hr, Option.bind_some]
    split
    next => rfl
    next => rfl
  renames := rfl
  inj := by
    intro i j k hi hj
    rcases Nat.lt_trichotomy i j with hij | hij | hij
    · have := place_lt_of_lt hi hj hij
      omega
    · exact hij
    · have := place_lt_of_lt hj hi hij
      omega
  kept := by
    intro i r hr
    rw [isSome_place hr, Bool.eq_iff_iff, List.any_eq_true]
    constructor
    · intro h
      obtain ⟨s, hs, hsr⟩ := h
      simp only [Bool.and_eq_true, beq_iff_eq] at hsr
      obtain ⟨j, hj⟩ := List.getElem?_of_mem hs
      cases hw.eq_of_name_eq hj hr hsr.2
      rw [show set.rule? i = some s from hj, Option.some.injEq] at hr
      rw [← hr]
      exact hsr.1
    · intro h
      exact ⟨r, List.mem_of_getElem? hr, by simp [h]⟩

/-- For a test of names, the names that pass are those that are kept. -/
theorem restricts_named (hw : set.WellFormed) (hu : set.Unambiguous) (kept : String → Bool) :
    set.Restricts (set.only (kept ·.name)) (set.place (kept ·.name)) kept :=
  { restricts_only hw hu (kept ·.name) with
    kept := by
      intro i r hr
      rw [isSome_place hr] }

/-- Rules that do not look at the numbers of their hits need not be told. -/
theorem only_rules_eq_filter (h : ∀ r ∈ set.rules, q r = true → r.IgnoresNumber) :
    (set.only q).rules = set.rules.filter q := by
  have hfilter : set.rules.filter q = (set.rules.zipIdx.map (·.1)).filter q := by
    rw [List.zipIdx_map_fst]
  rw [hfilter, List.filter_map, ← List.filterMap_eq_map, List.filterMap_filter]
  refine List.filterMap_congr fun e he => ?_
  have hmem : e.1 ∈ set.rules := List.mem_of_getElem? (List.mem_zipIdx_iff_getElem?.1 he)
  simp only [Function.comp_apply]
  split
  next hq => rw [h e.1 hmem hq e.2]
  next => rfl

end RuleSet

end TypeLint
