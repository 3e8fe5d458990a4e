import TypeLint.Diagnostic.Apply
import TypeLint.Proofs.Analysis.LifeCycle

/-!
# Making all the fixes of one report

Every fix that a report proposes can be made on its own. Whether they can be made together was
decided on the spans that cover them, and a cover does not show where inside it the edits are: two
covers that only touch may both hold an insertion at the place where they touch, and two insertions
at one place overlap.

That is the only way in which the fixes of one report can fail together. `report_fixes_joint_iff`
says so exactly: all of them can be made unless two diagnostics propose an insertion at one offset,
and then it is that overlap which is answered. `report_fixes_not_joint` is such a report.
-/

namespace TypeLint

/-- The diagnostic proposes to insert something at this offset. -/
def Diagnostic.InsertsAt (d : Diagnostic) (offset : Nat) : Prop :=
  ∃ fix, d.proposedFix? = some fix ∧ ∃ e ∈ fix.edits, e.span = .point offset

/-- The edits that two diagnostics propose overlap only as insertions at one offset. -/
def Diagnostic.MeetOnlyAtInsertions (d d' : Diagnostic) : Prop :=
  ∀ F G, d.proposedFix? = some F → d'.proposedFix? = some G →
    ∀ a ∈ F.edits, ∀ b ∈ G.edits,
      (a.span.overlaps b.span = true ↔ ∃ o, a.span = .point o ∧ b.span = .point o)

/-! ## One settled diagnostic -/

section Settled

variable {source : String} {d : Diagnostic} {fix : Fix}

/-- The fix a settled diagnostic proposes has edits and was made for this text, and its edits can be
made in it. -/
theorem Diagnostic.Settled.proposed (h : d.Settled source) (hfix : d.proposedFix? = some fix) :
    fix.edits ≠ [] ∧ fix.fingerprint = contentHash source ∧ Edit.Apart fix.edits ∧
      ∀ e ∈ fix.edits, e.Fits source := by
  have hstate := Conflict.state_of_proposedFix? hfix
  unfold Diagnostic.Settled at h
  rw [hstate] at h
  obtain ⟨fix', hfixes, hedits, hprint, happly⟩ := h
  rw [Diagnostic.proposedFix?, if_pos hstate, hfixes, List.head?_cons, Option.some.injEq] at hfix
  subst hfix
  exact ⟨hedits, hprint, applyEdits_ok_iff.1 happly⟩

end Settled

/-! ## Settled diagnostics together -/

section Together

variable {source : String} {ds : List Diagnostic}

/-- The edits of all the fixes that are proposed. -/
def proposedEdits (ds : List Diagnostic) : List Edit :=
  (ds.filterMap Diagnostic.proposedFix?).flatMap (·.edits)

theorem mem_proposedEdits_iff {e : Edit} :
    e ∈ proposedEdits ds ↔ ∃ d ∈ ds, ∃ fix, d.proposedFix? = some fix ∧ e ∈ fix.edits := by
  simp only [proposedEdits, List.mem_flatMap, List.mem_filterMap]
  constructor
  · intro h
    obtain ⟨fix, ⟨d, hd, hfix⟩, he⟩ := h
    exact ⟨d, hd, fix, hfix, he⟩
  · intro h
    obtain ⟨d, hd, fix, hfix, he⟩ := h
    exact ⟨fix, ⟨d, hd, hfix⟩, he⟩

/-- No fix is stale: what is left is to make the edits. -/
theorem applyFixes_eq_applyEdits (h : ∀ d ∈ ds, d.Settled source) :
    applyFixes source ds = applyEdits source (proposedEdits ds) := by
  have hfresh : (ds.filterMap Diagnostic.proposedFix?).find? (fun f =>
      f.fingerprint != 0 && f.fingerprint != contentHash source) = none := by
    rw [List.find?_eq_none]
    intro fix hfix
    obtain ⟨d, hd, hprop⟩ := List.mem_filterMap.1 hfix
    rw [((h d hd).proposed hprop).2.1]
    simp
  unfold applyFixes
  simp only [hfresh]
  rfl

theorem fits_of_mem_proposedEdits (h : ∀ d ∈ ds, d.Settled source) :
    ∀ e ∈ proposedEdits ds, e.Fits source := by
  intro e he
  obtain ⟨d, hd, fix, hfix, he⟩ := mem_proposedEdits_iff.1 he
  exact ((h d hd).proposed hfix).2.2.2 e he

/-- The edits are apart when those of any two diagnostics are: within one fix they always are. -/
theorem apart_proposedEdits_iff (h : ∀ d ∈ ds, d.Settled source) :
    Edit.Apart (proposedEdits ds) ↔
      ds.Pairwise fun d d' => ∀ F G, d.proposedFix? = some F → d'.proposedFix? = some G →
        ∀ a ∈ F.edits, ∀ b ∈ G.edits, a.span.overlaps b.span = false := by
  have hwithin : ∀ fix ∈ ds.filterMap Diagnostic.proposedFix?, Edit.Apart fix.edits := by
    intro fix hfix
    obtain ⟨d, hd, hprop⟩ := List.mem_filterMap.1 hfix
    exact ((h d hd).proposed hprop).2.2.1
  unfold Edit.Apart proposedEdits at *
  rw [List.pairwise_flatMap, List.pairwise_filterMap]
  constructor
  · intro h
    obtain ⟨-, hacross⟩ := h
    exact hacross.imp fun hdd F G hF hG => hdd F hF G hG
  · intro hacross
    exact ⟨hwithin, hacross.imp fun hdd F hF G hG => hdd F G hF hG⟩

/-- Settled diagnostics whose edits meet only at insertions can all be fixed together exactly when
no two of them insert at one offset. -/
theorem applyFixes_ok_iff_of_settled (h : ∀ d ∈ ds, d.Settled source)
    (hmeet : ds.Pairwise Diagnostic.MeetOnlyAtInsertions) :
    (∃ t, applyFixes source ds = .ok t) ↔
      ds.Pairwise fun d d' => ∀ o, ¬ (d.InsertsAt o ∧ d'.InsertsAt o) := by
  rw [applyFixes_eq_applyEdits h, applyEdits_ok_iff, apart_proposedEdits_iff h]
  constructor
  · intro h
    obtain ⟨hapart, -⟩ := h
    refine hapart.imp ?_
    intro d d' hdd o hboth
    obtain ⟨⟨F, hF, a, ha, hao⟩, G, hG, b, hb, hbo⟩ := hboth
    have hno := hdd F G hF hG a ha b hb
    rw [hao, hbo] at hno
    simp [Span.overlaps, Span.isEmpty, Span.point] at hno
  · intro hinsert
    refine ⟨?_, fits_of_mem_proposedEdits h⟩
    refine (hmeet.and hinsert).imp ?_
    intro d d' hpair F G hF hG a ha b hb
    obtain ⟨hdd, hnone⟩ := hpair
    rw [Bool.eq_false_iff]
    intro hov
    obtain ⟨o, hao, hbo⟩ := (hdd F G hF hG a ha b hb).1 hov
    exact hnone o ⟨⟨F, hF, a, ha, hao⟩, G, hG, b, hb, hbo⟩

/-- Where they cannot all be fixed together, the answer is two insertions at one offset. -/
theorem applyFixes_error_of_settled {e : EditError} (h : ∀ d ∈ ds, d.Settled source)
    (hmeet : ds.Pairwise Diagnostic.MeetOnlyAtInsertions)
    (herr : applyFixes source ds = .error e) : ∃ o, e = .overlap (.point o) (.point o) := by
  rw [applyFixes_eq_applyEdits h] at herr
  obtain ⟨a, b, hsub, hov, rfl⟩ :=
    exists_overlap_of_applyEdits_error (fits_of_mem_proposedEdits h) herr
  -- the property of a pair does not depend on the order, so it survives the sorting
  have hpairs : (proposedEdits ds).Pairwise fun a b =>
      a.span.overlaps b.span = true → ∃ o, a.span = .point o ∧ b.span = .point o := by
    unfold proposedEdits
    rw [List.pairwise_flatMap, List.pairwise_filterMap]
    constructor
    · intro fix hfix
      obtain ⟨d, hd, hprop⟩ := List.mem_filterMap.1 hfix
      refine ((h d hd).proposed hprop).2.2.1.imp fun hab hov => ?_
      rw [hab] at hov
      cases hov
    · exact hmeet.imp fun hdd F hF G hG a ha b hb => (hdd F G hF hG a ha b hb).1
  have hsorted := ((Edit.sorted_perm (proposedEdits ds)).pairwise_iff (by
    intro a b hab hba
    rw [Span.overlaps_comm] at hba
    obtain ⟨o, ha, hb⟩ := hab hba
    exact ⟨o, hb, ha⟩)).2 hpairs
  obtain ⟨o, ha, hb⟩ := (List.pairwise_pair.1 (hsorted.sublist hsub)) hov
  exact ⟨o, by rw [ha, hb]⟩

end Together

/-! ## The diagnostics of a report -/

/-- What two findings propose after conflict resolution meets only at insertions. -/
theorem resolveConflicts_meet {t : SyntaxTree} {rules : RuleSet} {policy : FixPolicy}
    {findings : List (Finding t)} {source : String}
    (h : ∀ f ∈ (resolveConflicts rules policy findings).1, f.diagnostic.Settled source) :
    ((resolveConflicts rules policy findings).1.map (·.diagnostic)).Pairwise
      Diagnostic.MeetOnlyAtInsertions := by
  rw [List.pairwise_map, List.pairwise_iff_getElem]
  intro i j hi hj hij F G hF hG a ha b hb
  obtain ⟨hFne, -, -, hFfits⟩ := (h _ (List.getElem_mem hi)).proposed hF
  obtain ⟨hGne, -, -, hGfits⟩ := (h _ (List.getElem_mem hj)).proposed hG
  obtain ⟨s, hs⟩ := Option.ne_none_iff_exists'.1 (mt Fix.span?_eq_none_iff.1 hFne)
  obtain ⟨s', hs'⟩ := Option.ne_none_iff_exists'.1 (mt Fix.span?_eq_none_iff.1 hGne)
  exact Span.overlaps_of_contained_iff (hFfits a ha).forward (hGfits b hb).forward
    (Fix.contains_of_span? hs ha) (Fix.contains_of_span? hs' hb)
    (resolveConflicts_spans_apart (Nat.ne_of_lt hij) (List.getElem?_eq_getElem hi)
      (List.getElem?_eq_getElem hj) hF hG hs hs')

theorem runRules_meet (rules : RuleSet) (options : AnalyzeOptions) (ctx : FileContext) :
    (Engine.runRules rules options ctx).diagnostics.Pairwise
      Diagnostic.MeetOnlyAtInsertions := by
  have hset := Engine.runRules_settled rules options ctx
  exact resolveConflicts_meet fun f hf => hset f.diagnostic (List.mem_map_of_mem hf)

/-- **The fixes of one report, together.** On the text that was analyzed they can all be made exactly
when no two diagnostics insert at one offset; if they cannot, two insertions at one offset are
answered; and the edits of two diagnostics overlap in no other way. -/
theorem report_fixes_joint_iff {engine : Engine} {rules : RuleSet} {options : AnalyzeOptions}
    {path source : String} {tree : SyntaxTree} (hparse : engine.parse path source = .ok tree)
    (htext : tree.source = source)
    (hdone : (engine.run rules options path source).outcome = .analyzed) :
    ((∃ t, applyFixes source (engine.run rules options path source).diagnostics = .ok t) ↔
      (engine.run rules options path source).diagnostics.Pairwise fun d d' =>
        ∀ o, ¬ (d.InsertsAt o ∧ d'.InsertsAt o)) ∧
    (∀ e, applyFixes source (engine.run rules options path source).diagnostics = .error e →
      ∃ o, e = .overlap (.point o) (.point o)) ∧
    (engine.run rules options path source).diagnostics.Pairwise
      Diagnostic.MeetOnlyAtInsertions := by
  rw [Engine.run_eq_runRules hparse hdone]
  subst htext
  have hset := Engine.runRules_settled rules options
    (.make path tree (if options.typeInfo then engine.oracle else none))
  have hmeet := runRules_meet rules options
    (.make path tree (if options.typeInfo then engine.oracle else none))
  exact ⟨applyFixes_ok_iff_of_settled hset hmeet,
    fun e => applyFixes_error_of_settled hset hmeet, hmeet⟩

theorem report_fixes_joint_iff_quarrel :
    (wordEngine quarrel).parse "a.ts" "ab" = .ok wordTree ∧
    ((wordEngine quarrel).run (wordRules quarrel) {} "a.ts" "ab").outcome = .analyzed ∧
    ((∃ t, applyFixes "ab"
        ((wordEngine quarrel).run (wordRules quarrel) {} "a.ts" "ab").diagnostics = .ok t) ↔
      ((wordEngine quarrel).run (wordRules quarrel) {} "a.ts" "ab").diagnostics.Pairwise
        fun d d' => ∀ o, ¬ (d.InsertsAt o ∧ d'.InsertsAt o)) := by
  have hparse : (wordEngine quarrel).parse "a.ts" "ab" = .ok wordTree := rfl
  have hdone : ((wordEngine quarrel).run (wordRules quarrel) {} "a.ts" "ab").outcome =
    .analyzed := rfl
  exact ⟨hparse, hdone, (report_fixes_joint_iff hparse rfl hdone).1⟩

/-! ## Two fixes that touch

One rule puts a bracket before the word and replaces the word, the other puts a parenthesis before
it. The first fix covers the word, the second only the place before it, so they do not conflict. -/

def openAndSwap : Fix :=
  ⟨"open and swap", .high, [⟨.point 0, "<", ""⟩, ⟨⟨0, 2⟩, "cd", "ab"⟩], 0⟩

def openOnly : Fix := ⟨"open", .high, [⟨.point 0, "(", ""⟩], 0⟩

def touching : List Rule :=
  [wordRule "w1" "TY901" (.custom fun _ _ => .ok (.proposed openAndSwap)),
    wordRule "w2" "TY902" (.custom fun _ _ => .ok (.proposed openOnly))]

def wordContext : FileContext := .make "a.ts" wordTree none

/-- The finding of the rule at this position on the word. -/
def wordFinding (rule : Rule) (i : Nat) (state : DiagnosticState) (fixes : List Fix) :
    Finding wordTree :=
  let hit : Match wordTree := ⟨i, rule.name, ⟨1, by decide⟩, ⟨0, 2⟩, .empty⟩
  ⟨{ Finding.diagnose wordContext rule hit with state, fixes }, hit⟩

theorem collectFindings_touching :
    collectFindings (wordRules touching) wordContext .suggestion
      (confirmMatches (wordRules touching) wordContext
        (findMatches (wordRules touching) wordContext).found.toList).confirmed.toList =
      [wordFinding touching[0] 0 .diagnosed [], wordFinding touching[1] 1 .diagnosed []] :=
  List.mergeSort_of_pairwise (by decide)

/-- What the two rules have to say once their fixers were asked. -/
def touchingFindings (fingerprint : UInt64) : List (Finding wordTree) :=
  [wordFinding touching[0] 0 .fixProposed [{ openAndSwap with fingerprint }],
    wordFinding touching[1] 1 .fixProposed [{ openOnly with fingerprint }]]

theorem offer_touching (fingerprint : UInt64) :
    (Proposal.offer (wordRules touching) wordContext fingerprint []
      [wordFinding touching[0] 0 .diagnosed [], wordFinding touching[1] 1 .diagnosed []]).1 =
      touchingFindings fingerprint := by
  have happly : ∀ fix ∈ [openAndSwap, openOnly], ∃ t, fix.apply "ab" = .ok t := by
    intro fix hfix
    refine applyEdits_ok_iff.2 ?_
    rcases List.mem_pair.1 hfix with rfl | rfl
    · exact ⟨by unfold Edit.Apart; decide, by unfold Edit.Fits; decide +kernel⟩
    · exact ⟨by unfold Edit.Apart; decide, by unfold Edit.Fits; decide +kernel⟩
  obtain ⟨t, ht⟩ := happly openAndSwap (by simp)
  obtain ⟨t', ht'⟩ := happly openOnly (by simp)
  have hfirst := Proposal.record_proposed fingerprint
    (show (wordFinding touching[0] 0 .diagnosed []).diagnostic.state = .diagnosed from rfl)
    (by decide) ht
  have hsecond := Proposal.record_proposed fingerprint
    (show (wordFinding touching[1] 1 .diagnosed []).diagnostic.state = .diagnosed from rfl)
    (by decide) ht'
  show [Finding.mk _ _, Finding.mk _ _] = [_, _]
  exact congrArg₂ (fun d d' => [Finding.mk d _, Finding.mk d' _]) hfirst hsecond

theorem resolveConflicts_touching (fingerprint : UInt64) :
    resolveConflicts (wordRules touching) .firstRegistered (touchingFindings fingerprint) =
      (touchingFindings fingerprint, 0) := by
  refine resolveConflicts_of_no_conflict ?_
  show Span.conflictingPairs [⟨0, 2⟩, .point 0] = []
  rw [List.eq_nil_iff_forall_not_mem]
  intro p h
  obtain ⟨a, b⟩ := p
  obtain ⟨hlt, s, s', hs, hs', hov⟩ := Span.mem_conflictingPairs_iff.1 h
  have hb : b < 2 := (List.getElem?_eq_some_iff.1 hs').1
  obtain ⟨rfl, rfl⟩ : a = 0 ∧ b = 1 := by omega
  cases hs
  cases hs'
  revert hov
  decide

/-- The two fixes are proposed side by side, and cannot be made together. -/
theorem report_fixes_not_joint :
    ((wordEngine touching).run (wordRules touching) {} "a.ts" "ab").outcome = .analyzed ∧
    ((wordEngine touching).run (wordRules touching) {} "a.ts" "ab").diagnostics.map (·.state) =
      [.fixProposed, .fixProposed] ∧
    applyFixes "ab" ((wordEngine touching).run (wordRules touching) {} "a.ts" "ab").diagnostics =
      .error (.overlap (.point 0) (.point 0)) := by
  have hdiag : (Engine.runRules (wordRules touching) {} wordContext).diagnostics =
      (touchingFindings (contentHash "ab")).map (·.diagnostic) := by
    have hcollect := congrArg (fun fs : List (Finding wordContext.tree) =>
      (resolveConflicts (wordRules touching) .firstRegistered (Proposal.offer (wordRules touching)
        wordContext (contentHash "ab") [] fs).1).1.map (·.diagnostic)) collectFindings_touching
    have hoffer := congrArg (fun fs : List (Finding wordTree) =>
      (resolveConflicts (wordRules touching) .firstRegistered fs).1.map (·.diagnostic))
      (offer_touching (contentHash "ab"))
    have hresolve := congrArg (fun r : List (Finding wordTree) × Nat => r.1.map (·.diagnostic))
      (resolveConflicts_touching (contentHash "ab"))
    exact hcollect.trans (hoffer.trans hresolve)
  have hedits : applyEdits "ab"
      [⟨.point 0, "<", ""⟩, ⟨⟨0, 2⟩, "cd", "ab"⟩, ⟨.point 0, "(", ""⟩] =
      .error (.overlap (.point 0) (.point 0)) := by
    simp [applyEdits, Edit.sorted, List.mergeSort, Edit.firstOverlap?, Span.before, Span.point,
      Span.overlaps, Span.isEmpty]
  have hrun : (wordEngine touching).run (wordRules touching) {} "a.ts" "ab" =
    Engine.runRules (wordRules touching) {} wordContext := rfl
  have hset := Engine.runRules_settled (wordRules touching) {} wordContext
  rw [hdiag] at hset
  rw [hrun, hdiag]
  exact ⟨rfl, rfl, (applyFixes_eq_applyEdits hset).trans hedits⟩

end TypeLint
