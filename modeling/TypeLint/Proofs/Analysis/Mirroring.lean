import TypeLint.Proofs.Analysis.JointFixes
import TypeLint.Proofs.Analysis.Renumbering

/-!
# The two policies mirror each other

Preferring the rule registered last is preferring the one registered first in the set read backwards.
In the reversed set the rule at place `i` of `n` stands at place `n - 1 - i` (`RuleSet.mirror`), and the
opposite policy counts places with the opposite sign, so that all places are moved by the same amount
and any two compare as they did (`ranksAlike_reversed`). Priorities and the starts of hits are not
touched by either, and how ranks compare is all that matters to the election
(`resolveConflicts_renumbered`).

A finding that belongs to no rule has no place to mirror. It ranks behind every rule, by a place that is
taken for the last one; that makes a difference only to a set with more rules than that.
-/

namespace TypeLint

namespace FixPolicy

/-- The policy that prefers the other end. -/
def opposite : FixPolicy → FixPolicy
  | .firstRegistered => .lastRegistered
  | .lastRegistered => .firstRegistered

/-- How a place counts in a rank: smaller is better. -/
def signed : FixPolicy → Nat → Int
  | .firstRegistered, i => i
  | .lastRegistered, i => -i

end FixPolicy

namespace RuleSet

/-- The same rules, registered the other way round. -/
def reversed (set : RuleSet) : RuleSet := { set with rules := set.rules.reverse }

/-- Where the rule at a place stands in the reversed set; a place without a rule stays one. -/
def mirror (set : RuleSet) (i : Nat) : Nat := if i < set.size then set.size - 1 - i else i

theorem size_reversed (set : RuleSet) : set.reversed.size = set.size := List.length_reverse

theorem rule?_reversed_mirror (set : RuleSet) (i : Nat) :
    set.reversed.rule? (set.mirror i) = set.rule? i := by
  unfold reversed mirror rule? size
  split
  next hlt =>
    rw [List.getElem?_reverse (by omega)]
    congr 1
    omega
  next hge =>
    rw [List.getElem?_eq_none (by rw [List.length_reverse]; omega),
      List.getElem?_eq_none (by omega)]

end RuleSet

namespace Conflict

variable {t : SyntaxTree} {rules : RuleSet}

/-- The place that findings of no rule are ranked by. -/
def lastPlace : Nat := 9223372036854775807

theorem snd_rank (rules : RuleSet) (policy : FixPolicy) (i : Nat) :
    (rank rules policy i).2 = if i < rules.size then policy.signed i else (lastPlace : Int) := by
  unfold rank RuleSet.rule?
  split
  next r hr =>
    have hlt : i < rules.size := (List.getElem?_eq_some_iff.1 hr).1
    rw [if_pos hlt]
    cases policy <;> rfl
  next hr =>
    have hge : ¬ i < rules.size := Nat.not_lt.2 (List.getElem?_eq_none_iff.1 hr)
    rw [if_neg hge]
    rfl

theorem fst_rank_reversed (policy : FixPolicy) (i : Nat) :
    (rank rules.reversed policy.opposite (rules.mirror i)).1 = (rank rules policy i).1 := by
  unfold rank
  rw [RuleSet.rule?_reversed_mirror]
  cases rules.rule? i <;> rfl

/-- Places of rules are all moved by the same amount, and stay before that of no rule. -/
theorem snd_rank_reversed_lt_iff {i j : Nat} (policy : FixPolicy)
    (h : (i < rules.size ∧ j < rules.size) ∨ rules.size ≤ lastPlace) :
    (rank rules.reversed policy.opposite (rules.mirror i)).2 <
        (rank rules.reversed policy.opposite (rules.mirror j)).2 ↔
      (rank rules policy i).2 < (rank rules policy j).2 := by
  simp only [snd_rank, RuleSet.size_reversed, RuleSet.mirror]
  cases policy with
  | firstRegistered =>
    simp only [FixPolicy.opposite, FixPolicy.signed]
    split_ifs <;> omega
  | lastRegistered =>
    simp only [FixPolicy.opposite, FixPolicy.signed]
    split_ifs <;> omega

/-- Findings compare in the reversed set under the opposite policy as they did. -/
theorem ranksAlike_reversed {findings : List (Finding t)} (policy : FixPolicy)
    (h : (∀ f ∈ findings, f.hit.rule < rules.size) ∨ rules.size ≤ lastPlace) :
    RanksAlike rules policy rules.reversed policy.opposite rules.mirror findings := by
  intro f hf g hg
  have hplaces : (f.hit.rule < rules.size ∧ g.hit.rule < rules.size) ∨ rules.size ≤ lastPlace :=
    h.imp_left fun hall => ⟨hall f hf, hall g hg⟩
  unfold rankOf
  simp only [Finding.renumbered, fst_rank_reversed]
  exact rankBefore_congr _ _ (snd_rank_reversed_lt_iff policy hplaces)
    (snd_rank_reversed_lt_iff policy (hplaces.imp_left And.symm))

end Conflict

/-- **The two policies mirror each other.** Conflict resolution under one policy leaves the same
diagnostics and rejects as many fixes as it does under the other policy when the rules are registered the
other way round and the findings point to their rules there. Findings that belong to no rule may be
among them where the rules are not more than there are places. -/
theorem policies_mirror_each_other {t : SyntaxTree} (rules : RuleSet) (policy : FixPolicy)
    (findings : List (Finding t))
    (h : (∀ f ∈ findings, f.hit.rule < rules.size) ∨ rules.size ≤ Conflict.lastPlace) :
    resolveConflicts rules.reversed policy.opposite (findings.map (·.renumbered rules.mirror)) =
      ((resolveConflicts rules policy findings).1.map (·.renumbered rules.mirror),
        (resolveConflicts rules policy findings).2) ∧
    (resolveConflicts rules.reversed policy.opposite
      (findings.map (·.renumbered rules.mirror))).1.map (·.diagnostic) =
        (resolveConflicts rules policy findings).1.map (·.diagnostic) := by
  have hranks := Conflict.ranksAlike_reversed policy h
  exact ⟨resolveConflicts_renumbered hranks, map_diagnostic_resolveConflicts_renumbered hranks⟩

/-- Two rules of the same priority, and one of a higher priority. -/
def rivals : List Rule :=
  [wordRule "w1" "TY901" (.replace "swap" "node" "cd"),
    wordRule "w2" "TY902" (.replace "shorten" "node" "a"),
    { wordRule "w3" "TY903" (.replace "rename" "node" "cb") with priority := some 1 }]

/-- The third rule wants the first letter, the first rule the word, and the second the last letter. -/
def rivalFindings : List (Finding wordTree) :=
  [wordFinding rivals[2] 2 .fixProposed [⟨"rename", .high, [⟨⟨0, 1⟩, "c", "a"⟩], 0⟩],
    wordFinding rivals[0] 0 .fixProposed [⟨"swap", .high, [⟨⟨0, 2⟩, "cd", "ab"⟩], 0⟩],
    wordFinding rivals[1] 1 .fixProposed [⟨"shorten", .high, [⟨⟨1, 2⟩, "", "b"⟩], 0⟩]]

/-- The word goes to the letters: the first rule loses to the third, and the second one stays. -/
theorem losers_rivals :
    Conflict.losers (wordRules rivals) .firstRegistered rivalFindings = [(1, "w3")] := by
  have horder : Conflict.order (wordRules rivals) .firstRegistered
      (Conflict.candidates rivalFindings) = [0, 1, 2] := by
    unfold Conflict.order
    rw [List.mergeSort_of_pairwise (by decide)]
    rfl
  have hspans : (Conflict.candidates rivalFindings).map (·.span) = [⟨0, 1⟩, ⟨0, 2⟩, ⟨1, 2⟩] := rfl
  have hnumbered : Span.numbered [⟨0, 1⟩, ⟨0, 2⟩, ⟨1, 2⟩] =
      [(0, ⟨0, 1⟩), (1, ⟨0, 2⟩), (2, ⟨1, 2⟩)] := List.mergeSort_of_pairwise (by decide)
  have hpairs : Span.conflictingPairs [⟨0, 1⟩, ⟨0, 2⟩, ⟨1, 2⟩] = [(0, 1), (1, 2)] := by
    unfold Span.conflictingPairs
    rw [hnumbered]
    exact List.mergeSort_of_pairwise (by decide)
  unfold Conflict.losers
  simp only [horder, hspans, hpairs]
  rfl

theorem policies_mirror_each_other_rivals :
    (∀ f ∈ rivalFindings, f.hit.rule < (wordRules rivals).size) ∧
    (resolveConflicts (wordRules rivals) .firstRegistered rivalFindings).2 = 1 ∧
    (resolveConflicts (wordRules rivals).reversed .lastRegistered
      (rivalFindings.map (·.renumbered (wordRules rivals).mirror))).2 = 1 ∧
    (resolveConflicts (wordRules rivals).reversed .lastRegistered
      (rivalFindings.map (·.renumbered (wordRules rivals).mirror))).1.map (·.diagnostic) =
        (resolveConflicts (wordRules rivals) .firstRegistered rivalFindings).1.map (·.diagnostic) := by
  have hplaces : ∀ f ∈ rivalFindings, f.hit.rule < (wordRules rivals).size := by decide
  have hone : (resolveConflicts (wordRules rivals) .firstRegistered rivalFindings).2 = 1 :=
    congrArg List.length losers_rivals
  obtain ⟨hmirrored, hdiagnostics⟩ :=
    policies_mirror_each_other (wordRules rivals) .firstRegistered rivalFindings (Or.inl hplaces)
  exact ⟨hplaces, hone, (congrArg Prod.snd hmirrored).trans hone, hdiagnostics⟩

end TypeLint
