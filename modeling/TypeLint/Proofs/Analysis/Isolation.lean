import TypeLint.Catalog.Basic
import TypeLint.Proofs.Analysis.Failures
import TypeLint.Proofs.Analysis.LifeCycle
import TypeLint.Proofs.Analysis.Renumbering
import TypeLint.Proofs.Rule.Selection

/-!
# Rules do not influence each other's findings

The report of a rule set, seen from one of its rules, is the report of that rule alone:
`rule_isolated`. What the other rules find, confirm or fix, and whether they break down, does not
change which findings the rule has, in which order, what they say, or how it fails itself. Only its
fixes can lose against theirs, so findings are compared without what became of their fixes.

The comparison of the two runs is that of `Restriction`, with the rules of some names left
(`run_agreesOn_named`). There the rules that are left are told the numbers they had. A rule alone is
told another, and `rules_not_isolated` has one that minds.
-/

namespace TypeLint

/-! ## What later phases leave alone -/

/-- The diagnostic without what became of its fix. -/
def Diagnostic.bare (d : Diagnostic) : Diagnostic :=
  { d with fixes := [], state := .diagnosed, note := none }

namespace Proposal

theorem bare_moveTo (d : Diagnostic) (next : DiagnosticState) : (moveTo d next).bare = d.bare := by
  unfold moveTo Diagnostic.transition
  cases d.state.canMoveTo next <;> rfl

theorem bare_manual (d : Diagnostic) (reason : String) : (manual d reason).bare = d.bare :=
  bare_moveTo _ _

/-- Recording an answer changes nothing else. -/
theorem bare_record (source : String) (fingerprint : UInt64) (d : Diagnostic)
    (outcome : Option FixOutcome) : (record source fingerprint d outcome).bare = d.bare := by
  unfold record
  split
  next => exact bare_moveTo _ _
  next => exact bare_manual _ _
  next =>
    split
    next => exact bare_moveTo _ _
    next =>
      split
      next => exact bare_moveTo _ _
      next => exact bare_manual _ _

theorem offer_bare (rules : RuleSet) (ctx : FileContext) (fingerprint : UInt64) :
    ∀ (findings : List (Finding ctx.tree)) (failed : List Nat),
      (offer rules ctx fingerprint failed findings).1.map (·.diagnostic.bare) =
        findings.map (·.diagnostic.bare)
  | [], _ => rfl
  | f :: rest, failed => by
    cases hr : rules.rule? f.hit.rule with
    | none =>
      rw [offer_cons_of_none hr, List.map_cons, List.map_cons, offer_bare rules ctx fingerprint rest]
    | some r =>
      rw [offer_cons_of_some hr, List.map_cons, List.map_cons, offer_bare rules ctx fingerprint rest,
        bare_record]

end Proposal

theorem Conflict.bare_reject (d : Diagnostic) (winner : String) : (reject d winner).bare = d.bare := by
  unfold reject Diagnostic.transition
  cases d.state.canMoveTo .rejected <;> rfl

theorem resolveConflicts_bare {t : SyntaxTree} (rules : RuleSet) (policy : FixPolicy)
    (findings : List (Finding t)) :
    (resolveConflicts rules policy findings).1.map (·.diagnostic.bare) =
      findings.map (·.diagnostic.bare) := by
  unfold resolveConflicts
  simp only
  rw [List.map_map]
  nth_rewrite 3 [← List.zipIdx_map_fst 0 findings]
  rw [List.map_map]
  refine List.map_congr_left ?_
  intro e _
  simp only [Function.comp_apply]
  split
  next => exact Conflict.bare_reject _ _
  next => rfl

/-- But for their fixes, the reported diagnostics are the findings. -/
theorem Engine.runRules_bare (rules : RuleSet) (options : AnalyzeOptions) (ctx : FileContext) :
    (runRules rules options ctx).diagnostics.map (·.bare) =
      (collectFindings rules ctx options.minSeverity
        (confirmMatches rules ctx (findMatches rules ctx).found.toList).confirmed.toList).map
          (·.diagnostic.bare) := by
  show (List.map _ (resolveConflicts _ _ _).1).map _ = _
  rw [List.map_map]
  exact (resolveConflicts_bare _ _ _).trans (Proposal.offer_bare _ _ _ _ _)

/-- The rules that report are those of the findings; sorting the findings and looking at their fixes
loses none. -/
theorem Engine.map_rule_runRules_perm (rules : RuleSet) (options : AnalyzeOptions)
    (ctx : FileContext) :
    ((runRules rules options ctx).diagnostics.map (·.rule)).Perm
      (((Finding.distinctFrom [] (confirmMatches rules ctx
        (findMatches rules ctx).found.toList).confirmed.toList).filterMap
          (Finding.ofMatch? rules ctx options.minSeverity)).map (·.diagnostic.rule)) := by
  have hrules := congrArg (List.map Diagnostic.rule) (runRules_bare rules options ctx)
  rw [List.map_map, List.map_map] at hrules
  exact (List.Perm.of_eq hrules).trans ((List.mergeSort_perm _ _).map _)

/-! ## Reports of fewer rules -/

/-- Two reports agree on the rules with these names: on what their findings are and how they fail. The
second report has no other rules. -/
structure FileReport.AgreesOn (kept : String → Bool) (whole part : FileReport) : Prop where
  diagnostics : (whole.diagnostics.filter fun d => kept d.rule).map (·.bare) =
    part.diagnostics.map (·.bare)
  failures : whole.failures.filter (fun f => kept f.rule) = part.failures

variable {whole part : RuleSet} {place : Nat → Option Nat} {kept : String → Bool}

/-- A finding is kept by the name of its rule exactly when the rule has a place. -/
theorem bare_moved (h : whole.Restricts part place kept) {ctx : FileContext} {floor : Severity}
    {hits : List (Match ctx.tree)} {f : Finding ctx.tree}
    (hf : f ∈ collectFindings whole ctx floor hits) :
    (f.moved place).map (·.diagnostic.bare) =
      if kept f.diagnostic.rule then some f.diagnostic.bare else none := by
  obtain ⟨r, hr, hdiag⟩ := exists_rule_of_mem_collectFindings hf
  have hname : f.diagnostic.rule = r.name := by
    rw [hdiag]
    rfl
  rw [hname, h.kept hr, Finding.moved, Match.moved]
  cases place f.hit.rule <;> rfl

/-- Leaving rules out of a set leaves their findings and failures out of the report and changes no
others. -/
theorem Engine.runRules_agreesOn (h : whole.Restricts part place kept) (options : AnalyzeOptions)
    (ctx : FileContext) :
    (runRules whole options ctx).AgreesOn kept (runRules part options ctx) := by
  have hfound := findMatches_mirrors h ctx
  have hconfirmed := confirmMatches_mirrors h ctx (findMatches whole ctx).found.toList
  rw [← hfound.found] at hconfirmed
  have hfindings := collectFindings_moved h ctx options.minSeverity
    (confirmMatches whole ctx (findMatches whole ctx).found.toList).confirmed.toList
  rw [← hconfirmed.confirmed] at hfindings
  refine ⟨?_, ?_⟩
  · calc ((runRules whole options ctx).diagnostics.filter fun d => kept d.rule).map (·.bare)
        = ((runRules whole options ctx).diagnostics.map (·.bare)).filter fun d => kept d.rule := by
          rw [List.filter_map]
          rfl
      _ = ((collectFindings whole ctx options.minSeverity
            (confirmMatches whole ctx (findMatches whole ctx).found.toList).confirmed.toList).filter
              fun f => kept f.diagnostic.rule).map (·.diagnostic.bare) := by
          rw [runRules_bare, List.filter_map]
          rfl
      _ = (collectFindings whole ctx options.minSeverity
            (confirmMatches whole ctx (findMatches whole ctx).found.toList).confirmed.toList).filterMap
              fun f => (f.moved place).map (·.diagnostic.bare) := by
          rw [← List.filterMap_eq_map, List.filterMap_filter]
          exact List.filterMap_congr fun f hf => (bare_moved h hf).symm
      _ = (runRules part options ctx).diagnostics.map (·.bare) := by
          rw [runRules_bare part, ← hfindings, List.map_filterMap]
  · have hfailures := (Proposal.offer_moved h (contentHash ctx.source) (collectFindings whole ctx
      options.minSeverity
      (confirmMatches whole ctx (findMatches whole ctx).found.toList).confirmed.toList) []).2
    rw [List.filterMap_nil, hfindings] at hfailures
    show keepFailures kept (_ ++ _ ++ _) = _ ++ _ ++ _
    rw [keepFailures_append, keepFailures_append, ← hfound.failures, ← hconfirmed.failures]
    exact congrArg _ hfailures.symm

/-! ## One rule -/

/-- The functions of the built-in rules do not look at the numbers of their hits. -/
theorem Catalog.ignoresNumber : ∀ r ∈ Catalog.rules, r.IgnoresNumber := by
  intro r hr i
  simp only [Catalog.rules, List.mem_cons, List.not_mem_nil, or_false] at hr
  rcases hr with rfl | rfl | rfl | rfl | rfl | rfl | rfl | rfl | rfl | rfl | rfl | rfl | rfl | rfl |
    rfl | rfl | rfl | rfl | rfl | rfl | rfl | rfl | rfl <;> rfl

/-- A text is reported alike by every set of rules, without running them, or the rules are run on its
tree. -/
theorem Engine.run_cases (engine : Engine) (options : AnalyzeOptions) (path source : String) :
    (∃ outcome, ∀ rules, engine.run rules options path source = { path, outcome }) ∨
      ∃ ctx, ∀ rules, engine.run rules options path source = runRules rules options ctx := by
  unfold run
  split
  next error herr => exact Or.inl ⟨.parseFailed error, fun _ => rfl⟩
  next tree htree =>
    split
    next e he => exact Or.inl ⟨.timedOut e.limitMs, fun _ => rfl⟩
    next => exact Or.inr ⟨_, fun _ => rfl⟩

theorem Engine.run_agreesOn (engine : Engine) (h : whole.Restricts part place kept)
    (options : AnalyzeOptions) (path source : String) :
    (engine.run whole options path source).AgreesOn kept
      (engine.run part options path source) := by
  rcases engine.run_cases options path source with ⟨outcome, hrun⟩ | ⟨ctx, hrun⟩
  · rw [hrun, hrun]
    exact ⟨rfl, rfl⟩
  · rw [hrun, hrun]
    exact runRules_agreesOn h options ctx

/-- What a report says of some rules is what they report alone, told the numbers that their hits
had. -/
theorem Engine.run_agreesOn_named {rules : RuleSet} (hw : rules.WellFormed) (hu : rules.Unambiguous)
    (kept : String → Bool) (engine : Engine) (options : AnalyzeOptions) (path source : String) :
    (engine.run rules options path source).AgreesOn kept
      (engine.run (rules.only (kept ·.name)) options path source) :=
  engine.run_agreesOn (RuleSet.restricts_named hw hu kept) options path source

/-- Where some rules of a set run, none fails twice in a phase, and the skipped rules are those of the
set that failed. -/
theorem Engine.run_failures {rules active : RuleSet} (hw : rules.WellFormed) (ha : active.WellFormed)
    (hsub : active.rules ⊆ rules.rules) (engine : Engine) (options : AnalyzeOptions)
    (path source : String) :
    ((engine.run active options path source).failures.map fun f => (f.rule, f.phase)).Nodup ∧
    (engine.run active options path source).stats.skippedRules =
      rules.rules.countP fun s =>
        (engine.run active options path source).failures.any fun f => f.rule == s.name := by
  rcases engine.run_cases options path source with ⟨outcome, hrun⟩ | ⟨ctx, hrun⟩
  · rw [hrun]
    exact ⟨List.nodup_nil, (List.countP_eq_zero.2 fun s _ => Bool.false_ne_true).symm⟩
  · rw [hrun]
    exact ⟨runRules_failures_nodup ha options ctx, runRules_skippedRules hw ha hsub options ctx⟩

/-- An analysis runs the rules that the filter selects. -/
theorem Engine.analyzeSource_eq_ok_iff {engine : Engine} {options : AnalyzeOptions}
    {path source : String} {report : FileReport} :
    engine.analyzeSource options path source = .ok report ↔
      ∃ active, engine.rules.filter options.filter = .ok active ∧
        report = engine.run active options path source := by
  unfold analyzeSource activeRules
  cases engine.rules.filter options.filter with
  | error e =>
    constructor
    · intro h
      cases h
    · intro h
      obtain ⟨active, hactive, -⟩ := h
      cases hactive
  | ok active =>
    constructor
    · intro h
      cases h
      exact ⟨active, rfl, rfl⟩
    · intro h
      obtain ⟨active', hactive, rfl⟩ := h
      cases hactive
      rfl

/-- An analysis is refused when its filter is. -/
theorem Engine.analyzeSource_of_filter_error {engine : Engine} {options : AnalyzeOptions}
    {e : RuleSetError} (h : engine.rules.filter options.filter = .error e) (path source : String) :
    engine.analyzeSource options path source = .error (.ruleSet e) := by
  unfold analyzeSource activeRules
  rw [h]
  rfl

/-- **Rules do not influence each other's findings.** In a set in which no name is the code of another
rule up to case, every rule can be selected alone by its name. Then the report of the whole set agrees
with the report of the rule alone on the rule's findings, in order, and on its failures, whatever the
other rules do. Two things can tell the difference: functions of the rule that look at the number of a
hit, which is lower where there are fewer rules, and a filter among the options that names a rule which
is no longer there, for which the analysis is refused.

In the report of the whole set no rule fails twice in a phase, and the skipped rules are those that
failed. -/
theorem rule_isolated (engine : Engine) (hb : engine.rules.Built) (hu : engine.rules.Unambiguous)
    (options : AnalyzeOptions) (path source : String) :
    (∀ r ∈ engine.rules.rules, ∃ alone, engine.rules.filter { allow := [r.name] } = .ok alone ∧
      alone.rules = [r] ∧
      (r.IgnoresNumber →
        (∀ id ∈ options.filter.allow ++ options.filter.deny, alone.indexOf? id ≠ none) →
        ∃ report part, engine.analyzeSource options path source = .ok report ∧
          { engine with rules := alone }.analyzeSource options path source = .ok part ∧
          report.AgreesOn (· == r.name) part)) ∧
    ∀ report, engine.analyzeSource options path source = .ok report →
      (report.failures.map fun f => (f.rule, f.phase)).Nodup ∧
      report.stats.skippedRules =
        engine.rules.rules.countP fun s => report.failures.any fun f => f.rule == s.name := by
  have hw := hb.wellFormed
  refine ⟨fun r hr => ⟨{ engine.rules with rules := engine.rules.rules.filter (·.name == r.name) },
    ?_, hw.filter_name_eq hr, fun hown hknown => ?_⟩, fun report hreport => ?_⟩
  · rw [hw.filter_name_eq hr]
    exact RuleSet.filter_allow_name hw hu hr
  · obtain ⟨chosen, hchosen, hpart⟩ := RuleSet.filter_leaving hw hu hknown
    obtain ⟨hsub, -⟩ := RuleSet.rules_sublist_of_filter_ok hchosen
    -- the one rule of that name does not look at its number
    have honly : (chosen.only (·.name == r.name)).rules = chosen.rules.filter (·.name == r.name) := by
      refine RuleSet.only_rules_eq_filter fun s hs hname => ?_
      rw [List.inj_on_of_nodup_map hw.nodup_names (hsub.subset hs) hr (beq_iff_eq.1 hname)]
      exact hown
    have hbuilt : chosen.Built := .filter hb hchosen
    have hagree := engine.run_agreesOn_named hbuilt.wellFormed (hu.of_labels_sublist (hsub.map _))
      (· == r.name) options path source
    refine ⟨_, _, Engine.analyzeSource_eq_ok_iff.2 ⟨_, hchosen, rfl⟩,
      Engine.analyzeSource_eq_ok_iff.2 ⟨_, hpart, rfl⟩, ?_⟩
    rw [← honly]
    exact hagree
  · obtain ⟨active, hactive, rfl⟩ := Engine.analyzeSource_eq_ok_iff.1 hreport
    have hbuilt : active.Built := .filter hb hactive
    exact engine.run_failures hw hbuilt.wellFormed
      (RuleSet.rules_sublist_of_filter_ok hactive).1.subset options path source

theorem built_quarrel : (wordRules quarrel).Built :=
  .ofRules (show RuleSet.ofRules quarrel = .ok (wordRules quarrel) from rfl)

theorem unambiguous_quarrel : (wordRules quarrel).Unambiguous := by
  unfold RuleSet.Unambiguous
  decide +kernel

/-- The second of three rules that get in each other's way, one of which breaks down, finds what it
finds alone. -/
theorem rule_isolated_quarrel :
    (wordRules quarrel).Built ∧ (wordRules quarrel).Unambiguous ∧
    ∃ r alone, (wordRules quarrel).rule? 1 = some r ∧ r.name = "w2" ∧ r.IgnoresNumber ∧
      (wordRules quarrel).filter { allow := ["w2"] } = .ok alone ∧ alone.rules = [r] ∧
      ∃ report part, (wordEngine quarrel).analyzeSource {} "a.ts" "ab" = .ok report ∧
        { wordEngine quarrel with rules := alone }.analyzeSource {} "a.ts" "ab" = .ok part ∧
        report.AgreesOn (· == "w2") part := by
  have hmem : quarrel[1] ∈ (wordRules quarrel).rules := List.getElem_mem _
  obtain ⟨alone, hfilter, halone, hagree⟩ :=
    (rule_isolated (wordEngine quarrel) built_quarrel unambiguous_quarrel {} "a.ts" "ab").1 _ hmem
  exact ⟨built_quarrel, unambiguous_quarrel, _, alone, rfl, rfl, fun _ => rfl, hfilter, halone,
    hagree (fun _ => rfl) fun _ hid => by cases hid⟩

/-- A rule that fires nowhere, and one that confirms its hits only under the number that it has after
the other. -/
def numbering : List Rule :=
  [{ name := "w1", code := "TY901", severity := .suggestion },
    { wordRule "w2" "TY902" (.replace "swap back" "node" "ba") with
      confirm := some fun _ m => .ok (if m.rule = 1 then .confirmed else .suppressed) }]

theorem built_numbering : (wordRules numbering).Built :=
  .ofRules (show RuleSet.ofRules numbering = .ok (wordRules numbering) from rfl)

theorem unambiguous_numbering : (wordRules numbering).Unambiguous := by
  unfold RuleSet.Unambiguous
  decide +kernel

/-- What tells a rule that it is alone. The rule that looks at its number reports the word with the
other rule in front of it, and does not without. And a rule is not even asked alone where the filter
among the options names another. -/
theorem rules_not_isolated :
    ((wordRules numbering).Built ∧ (wordRules numbering).Unambiguous ∧
      ∃ alone, (wordRules numbering).filter { allow := ["w2"] } = .ok alone ∧
        ∃ report part, (wordEngine numbering).analyzeSource {} "a.ts" "ab" = .ok report ∧
          { wordEngine numbering with rules := alone }.analyzeSource {} "a.ts" "ab" = .ok part ∧
          report.diagnostics.map (·.rule) = ["w2"] ∧ part.diagnostics.map (·.rule) = []) ∧
    (wordRules quarrel).Built ∧ (wordRules quarrel).Unambiguous ∧
      ∃ alone, (wordRules quarrel).filter { allow := ["w2"] } = .ok alone ∧
        ∃ report,
          (wordEngine quarrel).analyzeSource { filter := { deny := ["w1", "w3"] } } "a.ts" "ab" =
            .ok report ∧
          report.diagnostics.map (·.rule) = ["w2"] ∧
          { wordEngine quarrel with rules := alone }.analyzeSource
            { filter := { deny := ["w1", "w3"] } } "a.ts" "ab" =
            .error (.ruleSet (.unknownRule "w1")) := by
  constructor
  · have halone : (wordRules numbering).filter { allow := ["w2"] } =
        .ok { wordRules numbering with rules := [numbering[1]] } :=
      RuleSet.filter_allow_name (r := numbering[1]) built_numbering.wellFormed unambiguous_numbering
        (List.getElem_mem _)
    refine ⟨built_numbering, unambiguous_numbering, _, halone, _, _, rfl, rfl, ?_, ?_⟩
    · exact List.perm_singleton.1
        (Engine.map_rule_runRules_perm (wordRules numbering) {} (.make "a.ts" wordTree none))
    · exact List.perm_nil.1 (Engine.map_rule_runRules_perm
        { wordRules numbering with rules := [numbering[1]] } {} (.make "a.ts" wordTree none))
  · have halone : (wordRules quarrel).filter { allow := ["w2"] } =
        .ok { wordRules quarrel with rules := [quarrel[1]] } :=
      RuleSet.filter_allow_name (r := quarrel[1]) built_quarrel.wellFormed unambiguous_quarrel
        (List.getElem_mem _)
    have hchosen : (wordRules quarrel).filter { deny := ["w1", "w3"] } =
        .ok { wordRules quarrel with rules := [quarrel[1]] } :=
      RuleSet.filter_deny_names built_quarrel.wellFormed unambiguous_quarrel (·.name == "w2")
    have hrefused : { wordRules quarrel with rules := [quarrel[1]] }.filter
        { deny := ["w1", "w3"] } = .error (.unknownRule "w1") :=
      RuleSet.filter_of_firstUnknown ⟨[], ["w3"], rfl, fun _ h => (by cases h), by decide +kernel⟩
    refine ⟨built_quarrel, unambiguous_quarrel, _, halone, _,
      Engine.analyzeSource_eq_ok_iff.2 ⟨_, hchosen, rfl⟩, ?_,
      Engine.analyzeSource_of_filter_error hrefused _ _⟩
    exact List.perm_singleton.1 (Engine.map_rule_runRules_perm
      { wordRules quarrel with rules := [quarrel[1]] } { filter := { deny := ["w1", "w3"] } }
      (.make "a.ts" wordTree none))

end TypeLint
