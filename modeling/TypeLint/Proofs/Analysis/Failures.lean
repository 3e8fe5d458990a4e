import TypeLint.Proofs.Analysis.Restriction

/-!
# Each rule fails once

A rule that breaks down is not asked again in the same phase, so a phase reports at most one failure
of a rule. Each phase remembers the rules that failed by number and reports them by name; the
invariant `FailedOnce` ties the two together, and distinct names do the rest.

`runRules_failures_nodup` puts the phases together, and `runRules_skippedRules` says what the report
counts: the rules that failed somewhere.
-/

namespace TypeLint

variable {rules : RuleSet}

/-- The failures of a phase so far: each is that of a rule which is marked as failed, and no rule has
two. -/
structure FailedOnce (rules : RuleSet) (phase : Phase) (failed : List Nat)
    (failures : List RuleFailure) : Prop where
  nodup : (failures.map (·.rule)).Nodup
  phase_eq : ∀ f ∈ failures, f.phase = phase
  marked : ∀ f ∈ failures, ∃ i r, i ∈ failed ∧ rules.rule? i = some r ∧ f.rule = r.name

theorem FailedOnce.nil (phase : Phase) : FailedOnce rules phase [] [] where
  nodup := List.nodup_nil
  phase_eq f hf := by cases hf
  marked f hf := by cases hf

/-- A rule that was not marked fails and is marked. -/
theorem FailedOnce.push (hw : rules.WellFormed) {phase : Phase} {failed : List Nat}
    {failures : Array RuleFailure} (h : FailedOnce rules phase failed failures.toList) {i : Nat}
    {r : Rule} (hr : rules.rule? i = some r) (hi : ¬failed.contains i = true) (path message : String) :
    FailedOnce rules phase (i :: failed)
      (failures.push ⟨r.name, path, phase, message⟩).toList := by
  -- a failure under this name would be that of the same rule, which was not marked
  have hnew : r.name ∉ failures.toList.map (·.rule) := by
    intro hmem
    obtain ⟨f, hf, hname⟩ := List.mem_map.1 hmem
    obtain ⟨j, s, hj, hs, hfs⟩ := h.marked f hf
    have hij : j = i := hw.eq_of_name_eq hs hr (hfs.symm.trans hname)
    rw [List.contains_iff_mem, ← hij] at hi
    exact hi hj
  rw [Array.toList_push]
  refine ⟨?_, ?_, ?_⟩
  · rw [List.map_append, List.nodup_append_comm]
    exact List.nodup_cons.2 ⟨hnew, h.nodup⟩
  · intro f hf
    rcases List.mem_append.1 hf with hf | hf
    · exact h.phase_eq f hf
    · cases List.mem_singleton.1 hf
      rfl
  · intro f hf
    rcases List.mem_append.1 hf with hf | hf
    · obtain ⟨j, s, hj, hs, hname⟩ := h.marked f hf
      exact ⟨j, s, List.mem_cons_of_mem _ hj, hs, hname⟩
    · cases List.mem_singleton.1 hf
      exact ⟨i, r, List.mem_cons_self, hr, rfl⟩

/-! ## The phases -/

theorem Matching.tryRule_failedOnce (hw : rules.WellFormed) {ctx : FileContext} (n : Node ctx.tree)
    {acc : Matching ctx.tree} {i : Nat} {r : Rule} (hr : rules.rule? i = some r)
    (h : FailedOnce rules .matching acc.failed acc.failures.toList) :
    FailedOnce rules .matching (tryRule ctx n acc (r, i)).failed
      (tryRule ctx n acc (r, i)).failures.toList := by
  unfold tryRule
  simp only
  split
  next => exact h
  next hi =>
    split
    next => exact h
    next => exact h
    next fault herr => exact h.push hw hr hi ctx.path fault.message

/-- Finding hits reports each rule at most once. -/
theorem findMatches_failedOnce (hw : rules.WellFormed) (ctx : FileContext) :
    FailedOnce rules .matching (findMatches rules ctx).failed
      (findMatches rules ctx).failures.toList := by
  unfold findMatches
  refine List.foldlRecOn (motive := fun acc : Matching ctx.tree =>
    FailedOnce rules .matching acc.failed acc.failures.toList) _ _ (FailedOnce.nil _) ?_
  intro acc hacc n _
  unfold Matching.tryNode
  refine List.foldlRecOn (motive := fun acc : Matching ctx.tree =>
    FailedOnce rules .matching acc.failed acc.failures.toList) _ _ hacc ?_
  intro acc hacc e he
  exact Matching.tryRule_failedOnce hw n (List.mem_zipIdx_iff_getElem?.1 he) hacc

theorem Confirmation.take_failedOnce (hw : rules.WellFormed) {ctx : FileContext}
    {acc : Confirmation ctx.tree} (m : Match ctx.tree)
    (h : FailedOnce rules .confirming acc.failed acc.failures.toList) :
    FailedOnce rules .confirming (take rules ctx acc m).failed
      (take rules ctx acc m).failures.toList := by
  unfold take
  split
  next => exact h
  next r hr =>
    split
    next => exact h
    next hi =>
      split
      next => exact h
      next => exact h
      next => exact h
      next fault herr => exact h.push hw hr hi ctx.path fault.message

/-- Confirming hits reports each rule at most once. -/
theorem confirmMatches_failedOnce (hw : rules.WellFormed) (ctx : FileContext)
    (hits : List (Match ctx.tree)) :
    FailedOnce rules .confirming (confirmMatches rules ctx hits).failed
      (confirmMatches rules ctx hits).failures.toList := by
  unfold confirmMatches
  refine List.foldlRecOn (motive := fun acc : Confirmation ctx.tree =>
    FailedOnce rules .confirming acc.failed acc.failures.toList) _ _ (FailedOnce.nil _) ?_
  intro acc hacc m _
  exact Confirmation.take_failedOnce hw m hacc

namespace Proposal

variable {ctx : FileContext}

/-- A rule whose fixer broke down is not asked again. -/
theorem ask_of_failed (rule : Rule) (m : Match ctx.tree) : (ask ctx rule true m).2 = none := by
  unfold ask
  cases rule.fixer <;> rfl

/-- Offering findings reports each rule at most once, and none that had failed before. -/
theorem offer_failures (hw : rules.WellFormed) (fingerprint : UInt64) :
    ∀ (findings : List (Finding ctx.tree)) (failed : List Nat),
      ((offer rules ctx fingerprint failed findings).2.map (·.rule)).Nodup ∧
      ∀ f ∈ (offer rules ctx fingerprint failed findings).2, f.phase = .fixing ∧
        ∃ i r, i ∉ failed ∧ rules.rule? i = some r ∧ f.rule = r.name
  | [], _ => ⟨List.nodup_nil, fun f hf => by cases hf⟩
  | f :: rest, failed => by
    cases hr : rules.rule? f.hit.rule with
    | none =>
      rw [offer_cons_of_none hr]
      exact offer_failures hw fingerprint rest failed
    | some r =>
      rw [offer_cons_of_some hr]
      simp only
      cases hfault : (ask ctx r (failed.contains f.hit.rule) f.hit).2 with
      | none => exact offer_failures hw fingerprint rest failed
      | some fault =>
        -- a fault now means that the fixer was asked now
        have hfresh : f.hit.rule ∉ failed := by
          intro hmem
          rw [List.contains_iff_mem.2 hmem, ask_of_failed] at hfault
          cases hfault
        obtain ⟨hnodup, hlater⟩ := offer_failures hw fingerprint rest (f.hit.rule :: failed)
        refine ⟨List.nodup_cons.2 ⟨?_, hnodup⟩, ?_⟩
        · intro hmem
          obtain ⟨g, hg, hname⟩ := List.mem_map.1 hmem
          obtain ⟨-, j, s, hj, hs, hgs⟩ := hlater g hg
          have hij : j = f.hit.rule := hw.eq_of_name_eq hs hr (hgs.symm.trans hname)
          rw [hij] at hj
          exact hj List.mem_cons_self
        · intro g hg
          rcases List.mem_cons.1 hg with rfl | hg
          · exact ⟨rfl, f.hit.rule, r, hfresh, hr, rfl⟩
          · obtain ⟨hphase, j, s, hj, hs, hgs⟩ := hlater g hg
            exact ⟨hphase, j, s, fun hmem => hj (List.mem_cons_of_mem _ hmem), hs, hgs⟩

end Proposal

/-! ## The report -/

theorem nodup_eraseDups : ∀ l : List String, l.eraseDups.Nodup
  | [] => List.nodup_nil
  | a :: l => by
    rw [List.eraseDups_cons]
    refine List.nodup_cons.2 ⟨?_, nodup_eraseDups _⟩
    intro hmem
    have hne := (List.mem_filter.1 (List.mem_eraseDups.1 hmem)).2
    simp at hne
termination_by l => l.length
decreasing_by exact Nat.lt_succ_of_le (List.length_filter_le _ l)

/-- Names of rules, each counted once, are as many as the rules of those names. -/
theorem length_eraseDups_eq_countP (hw : rules.WellFormed) {failures : List RuleFailure}
    (hrule : ∀ f ∈ failures, ∃ r ∈ rules.rules, f.rule = r.name) :
    (failures.map (·.rule)).eraseDups.length =
      rules.rules.countP fun r => failures.any fun f => f.rule == r.name := by
  have hperm : (failures.map (·.rule)).eraseDups.Perm
      ((rules.rules.filter fun r => failures.any fun f => f.rule == r.name).map (·.name)) := by
    refine (List.perm_ext_iff_of_nodup (nodup_eraseDups _)
      (hw.nodup_names.sublist (List.filter_sublist.map _))).2 ?_
    intro name
    rw [List.mem_eraseDups, List.mem_map, List.mem_map]
    constructor
    · intro h
      obtain ⟨f, hf, hname⟩ := h
      obtain ⟨r, hr, hfr⟩ := hrule f hf
      refine ⟨r, List.mem_filter.2 ⟨hr, List.any_eq_true.2 ⟨f, hf, ?_⟩⟩, hfr.symm.trans hname⟩
      exact beq_iff_eq.2 hfr
    · intro h
      obtain ⟨r, hr, hname⟩ := h
      obtain ⟨f, hf, hfr⟩ := List.any_eq_true.1 (List.mem_filter.1 hr).2
      exact ⟨f, hf, (beq_iff_eq.1 hfr).trans hname⟩
  rw [hperm.length_eq, List.length_map, List.countP_eq_length_filter]

theorem nodup_of_nodup_rule {l : List RuleFailure} (h : (l.map (·.rule)).Nodup) :
    (l.map fun f => (f.rule, f.phase)).Nodup := by
  refine List.Nodup.of_map Prod.fst ?_
  rw [List.map_map]
  exact h

/-- Failures of different phases are told apart. -/
theorem nodup_append_of_phase {l l' : List RuleFailure}
    (h : (l.map fun f => (f.rule, f.phase)).Nodup) (h' : (l'.map (·.rule)).Nodup)
    (hne : ∀ f ∈ l, ∀ g ∈ l', f.phase ≠ g.phase) :
    ((l ++ l').map fun f => (f.rule, f.phase)).Nodup := by
  rw [List.map_append]
  refine List.nodup_append.2 ⟨h, nodup_of_nodup_rule h', ?_⟩
  intro a ha b hb hab
  obtain ⟨f, hf, rfl⟩ := List.mem_map.1 ha
  obtain ⟨g, hg, rfl⟩ := List.mem_map.1 hb
  exact hne f hf g hg (congrArg Prod.snd hab)

namespace Engine

/-- A report has at most one failure of a rule in a phase. -/
theorem runRules_failures_nodup (hw : rules.WellFormed) (options : AnalyzeOptions)
    (ctx : FileContext) :
    ((runRules rules options ctx).failures.map fun f => (f.rule, f.phase)).Nodup := by
  have hmatch := findMatches_failedOnce hw ctx
  have hconfirm := confirmMatches_failedOnce hw ctx (findMatches rules ctx).found.toList
  have hfix := Proposal.offer_failures hw (contentHash ctx.source)
    (collectFindings rules ctx options.minSeverity
      (confirmMatches rules ctx (findMatches rules ctx).found.toList).confirmed.toList) []
  refine nodup_append_of_phase
    (nodup_append_of_phase (nodup_of_nodup_rule hmatch.nodup) hconfirm.nodup ?_) hfix.1 ?_
  · intro f hf g hg
    rw [hmatch.phase_eq f hf, hconfirm.phase_eq g hg]
    decide
  · intro f hf g hg
    rw [(hfix.2 g hg).1]
    rcases List.mem_append.1 hf with hf | hf
    · rw [hmatch.phase_eq f hf]
      decide
    · rw [hconfirm.phase_eq f hf]
      decide

/-- Every failure is that of a rule of the set. -/
theorem exists_rule_of_failure (hw : rules.WellFormed) {options : AnalyzeOptions} {ctx : FileContext}
    {f : RuleFailure} (hf : f ∈ (runRules rules options ctx).failures) :
    ∃ r ∈ rules.rules, f.rule = r.name := by
  rcases List.mem_append.1 hf with hf | hf
  · rcases List.mem_append.1 hf with hf | hf
    · obtain ⟨i, r, -, hr, hname⟩ := (findMatches_failedOnce hw ctx).marked f hf
      exact ⟨r, List.mem_of_getElem? hr, hname⟩
    · obtain ⟨i, r, -, hr, hname⟩ := (confirmMatches_failedOnce hw ctx _).marked f hf
      exact ⟨r, List.mem_of_getElem? hr, hname⟩
  · obtain ⟨-, i, r, -, hr, hname⟩ := (Proposal.offer_failures hw _ _ _).2 f hf
    exact ⟨r, List.mem_of_getElem? hr, hname⟩

/-- A report counts the rules that failed in some phase. It makes no difference to the count whether
the rules are counted that ran, or all of a larger set. -/
theorem runRules_skippedRules {active : RuleSet} (hw : rules.WellFormed) (ha : active.WellFormed)
    (hsub : active.rules ⊆ rules.rules) (options : AnalyzeOptions) (ctx : FileContext) :
    (runRules active options ctx).stats.skippedRules =
      rules.rules.countP fun r =>
        (runRules active options ctx).failures.any fun f => f.rule == r.name := by
  refine length_eraseDups_eq_countP hw fun f hf => ?_
  obtain ⟨r, hr, hname⟩ := exists_rule_of_failure ha hf
  exact ⟨r, hsub hr, hname⟩

end Engine

end TypeLint
