import TypeLint.Proofs.Analysis.Provenance
import TypeLint.Proofs.Analysis.Renumbering
import TypeLint.Proofs.Catalog.Presets

/-!
# A severity floor is the same as not having the rules

Rules below the floor still find hits, confirm them and may break down; what they lack is findings.
`severity_floor_eq_removal` says that this is enough for their absence: the diagnostics, with fixes,
states and notes, are those of the set without them.

Up to the fixes the comparison is that of `Restriction`, for the set of the warnings only. From there
on all findings are of rules that stay, under new numbers in the old order, and the election does not
see the difference. In `run_only_warnings` the warnings are told the numbers they had. The warnings of
a filtered set are told lower ones, and `floor_ne_removal` has one that minds.

The two presets differ in their former names as well, and `runRules_congr` says that a run depends on
those only as far as they lead to rules of the set.
-/

namespace TypeLint

/-! ## Runs with a floor -/

/-- The rule is a warning, above every floor. -/
def Rule.isWarning (r : Rule) : Bool := r.severity == .warning

theorem Severity.atLeast_warning {s : Severity} : s.atLeast .warning = true ↔ s = .warning := by
  cases s <;> decide

/-- Where every rule is a warning, the floor does not matter. -/
theorem collectFindings_floor {rules : RuleSet} (h : ∀ r ∈ rules.rules, r.isWarning = true)
    (ctx : FileContext) (floor floor' : Severity) (hits : List (Match ctx.tree)) :
    collectFindings rules ctx floor hits = collectFindings rules ctx floor' hits := by
  have hfinding : ∀ m, Finding.ofMatch? rules ctx floor m = Finding.ofMatch? rules ctx floor' m := by
    intro m
    unfold Finding.ofMatch?
    split
    next => rfl
    next r hr =>
      have hwarning : r.severity = .warning := by
        simpa [Rule.isWarning] using h r (List.mem_of_getElem? hr)
      rw [hwarning]
      cases floor <;> cases floor' <;> rfl
  unfold collectFindings
  simp only [hfinding]

namespace Engine

variable {rules : RuleSet}

/-- The findings of the warnings alone, whatever the floor, are those above the floor. -/
theorem findings_only_warnings (hw : rules.WellFormed) (hu : rules.Unambiguous) (ctx : FileContext)
    (floor : Severity) :
    findings (rules.only Rule.isWarning) ctx floor =
      (findings rules ctx .warning).filterMap (·.moved (rules.place Rule.isWarning)) := by
  have h := RuleSet.restricts_only hw hu Rule.isWarning
  have hwarnings : ∀ r ∈ (rules.only Rule.isWarning).rules, r.isWarning = true := by
    intro r hr
    obtain ⟨e, -, he⟩ := List.mem_filterMap.1 hr
    split at he
    next hq =>
      cases he
      exact hq
    next => cases he
  have hfound := findMatches_mirrors h ctx
  have hconfirmed := confirmMatches_mirrors h ctx (findMatches rules ctx).found.toList
  rw [← hfound.found] at hconfirmed
  unfold findings
  rw [collectFindings_floor hwarnings ctx floor .warning, hconfirmed.confirmed,
    collectFindings_moved h]

/-- A finding above the floor is of a rule that stays. -/
theorem exists_place_of_mem_findings {ctx : FileContext} {f : Finding ctx.tree}
    (hf : f ∈ findings rules ctx .warning) :
    ∃ k, rules.place Rule.isWarning f.hit.rule = some k := by
  unfold findings collectFindings at hf
  rw [List.mem_mergeSort, List.mem_filterMap] at hf
  obtain ⟨m, -, hm⟩ := hf
  obtain ⟨r, hr, hsev, rfl⟩ := ofMatch?_eq_some_iff.1 hm
  have hwarning : r.isWarning = true := by
    rw [Severity.atLeast_warning] at hsev
    simp [Rule.isWarning, hsev]
  exact ⟨_, RuleSet.place_eq_some_iff.2 ⟨r, hr, hwarning, rfl⟩⟩

end Engine

/-- Findings that all stay are renumbered, and none is dropped. -/
theorem Finding.filterMap_moved_eq_map {t : SyntaxTree} {place : Nat → Option Nat}
    {findings : List (Finding t)} (h : ∀ f ∈ findings, ∃ k, place f.hit.rule = some k) :
    findings.filterMap (·.moved place) =
      findings.map (·.renumbered fun i => (place i).getD 0) := by
  rw [← List.filterMap_eq_map]
  refine List.filterMap_congr fun f hf => ?_
  obtain ⟨k, hk⟩ := h f hf
  rw [moved, Match.moved_of_some hk, Function.comp_apply, renumbered, hk]
  rfl

/-- A fixer's answer leaves the hits of the findings alone. -/
theorem Proposal.offer_hits (rules : RuleSet) (ctx : FileContext) (fingerprint : UInt64) :
    ∀ (findings : List (Finding ctx.tree)) (failed : List Nat),
      (offer rules ctx fingerprint failed findings).1.map (·.hit) = findings.map (·.hit)
  | [], _ => rfl
  | f :: rest, failed => by
    cases hr : rules.rule? f.hit.rule with
    | none =>
      rw [offer_cons_of_none hr, List.map_cons, List.map_cons, offer_hits rules ctx fingerprint rest]
    | some r =>
      rw [offer_cons_of_some hr, List.map_cons, List.map_cons, offer_hits rules ctx fingerprint rest]

/-- With the floor at warnings, the rules report what the warnings alone report. -/
theorem Engine.runRules_only_warnings {rules : RuleSet} (hw : rules.WellFormed)
    (hu : rules.Unambiguous) (options : AnalyzeOptions) (ctx : FileContext) (floor : Severity) :
    (runRules rules { options with minSeverity := .warning } ctx).diagnostics =
      (runRules (rules.only Rule.isWarning) { options with minSeverity := floor } ctx).diagnostics := by
  have h := RuleSet.restricts_only hw hu Rule.isWarning
  have hoffer := (Proposal.offer_moved h (contentHash ctx.source) (findings rules ctx .warning) []).1
  rw [List.filterMap_nil, ← findings_only_warnings hw hu ctx floor] at hoffer
  -- nothing below the floor is left among the findings
  have hplace : ∀ g ∈ (Proposal.offer rules ctx (contentHash ctx.source) []
      (findings rules ctx .warning)).1, ∃ k, rules.place Rule.isWarning g.hit.rule = some k := by
    intro g hg
    have hhit := List.mem_map_of_mem (f := Finding.hit) hg
    rw [Proposal.offer_hits] at hhit
    obtain ⟨f, hf, heq⟩ := List.mem_map.1 hhit
    rw [← heq]
    exact exists_place_of_mem_findings hf
  rw [Finding.filterMap_moved_eq_map hplace] at hoffer
  show List.map _ (resolveConflicts rules options.fixPolicy (Proposal.offer rules ctx
      (contentHash ctx.source) [] (findings rules ctx .warning)).1).1 =
    List.map _ (resolveConflicts (rules.only Rule.isWarning) options.fixPolicy (Proposal.offer
      (rules.only Rule.isWarning) ctx (contentHash ctx.source) []
      (findings (rules.only Rule.isWarning) ctx floor)).1).1
  rw [hoffer]
  refine (map_diagnostic_resolveConflicts_renumbered
    (Conflict.KeepsOrder.ranksAlike ⟨fun g hg => ?_, fun f hf g hg => ?_⟩ _)).symm
  · obtain ⟨k, hk⟩ := hplace g hg
    obtain ⟨r, hr, -, -⟩ := RuleSet.place_eq_some_iff.1 hk
    refine ⟨r, r.numbered g.hit.rule, hr, ?_, rfl⟩
    rw [hk, Option.getD_some, h.rule?_place hk, hr]
    rfl
  · obtain ⟨k, hk⟩ := hplace f hf
    obtain ⟨l, hl⟩ := hplace g hg
    rw [hk, hl]
    exact RuleSet.place_lt_iff hk hl

/-- A text is reported without running any rules, or the rules are run on its tree; the floor does not
matter for that. -/
theorem Engine.run_floor_cases (engine : Engine) (options : AnalyzeOptions) (path source : String) :
    (∀ rules floor,
      (engine.run rules { options with minSeverity := floor } path source).diagnostics = []) ∨
    ∃ ctx, ∀ rules floor, engine.run rules { options with minSeverity := floor } path source =
      runRules rules { options with minSeverity := floor } ctx := by
  unfold run
  split
  next => exact Or.inl fun _ _ => rfl
  next tree htree =>
    cases hdeadline : (Deadline.mk options.timeoutMs).exceeded? with
    | some e => exact Or.inl fun _ _ => by simp only [hdeadline]
    | none =>
      refine Or.inr ⟨.make path tree (if options.typeInfo then engine.oracle else none), fun _ _ => ?_⟩
      simp only [hdeadline]

/-- The warnings alone, told the numbers that their hits had, report what the whole set reports with the
floor at warnings. -/
theorem Engine.run_only_warnings {rules : RuleSet} (hw : rules.WellFormed) (hu : rules.Unambiguous)
    (engine : Engine) (options : AnalyzeOptions) (path source : String) (floor : Severity) :
    (engine.run rules { options with minSeverity := .warning } path source).diagnostics =
      (engine.run (rules.only Rule.isWarning) { options with minSeverity := floor } path
        source).diagnostics := by
  rcases engine.run_floor_cases options path source with hrun | ⟨ctx, hrun⟩
  · rw [hrun, hrun]
  · rw [hrun, hrun]
    exact runRules_only_warnings hw hu options ctx floor

/-! ## Sets with the same rules -/

/-- Former names lead to the same rules in both sets. -/
def RuleSet.SameFormerNames (set set' : RuleSet) : Prop :=
  ∀ r ∈ set.rules, ∀ id,
    (∃ new, set.renamed? id = some new ∧ RuleSet.answersTo new r = true) ↔
      ∃ new, set'.renamed? id = some new ∧ RuleSet.answersTo new r = true

section SameRules

variable {set set' : RuleSet}

theorem collectFindings_congr (h : ∀ i, set'.rule? i = set.rule? i) (ctx : FileContext)
    (floor : Severity) (hits : List (Match ctx.tree)) :
    collectFindings set' ctx floor hits = collectFindings set ctx floor hits := by
  unfold collectFindings Finding.ofMatch?
  simp only [h]

theorem Proposal.offer_congr (h : ∀ i, set'.rule? i = set.rule? i) (ctx : FileContext)
    (fingerprint : UInt64) :
    ∀ (findings : List (Finding ctx.tree)) (failed : List Nat),
      offer set' ctx fingerprint failed findings = offer set ctx fingerprint failed findings
  | [], _ => rfl
  | f :: rest, failed => by
    cases hr : set.rule? f.hit.rule with
    | none =>
      rw [offer_cons_of_none hr, offer_cons_of_none ((h _).trans hr),
        offer_congr h ctx fingerprint rest]
    | some r =>
      rw [offer_cons_of_some hr, offer_cons_of_some ((h _).trans hr)]
      simp only [offer_congr h ctx fingerprint rest]

theorem resolveConflicts_congr {t : SyntaxTree} (h : ∀ i, set'.rule? i = set.rule? i)
    (policy : FixPolicy) (findings : List (Finding t)) :
    resolveConflicts set' policy findings = resolveConflicts set policy findings := by
  unfold resolveConflicts Conflict.losers Conflict.order Conflict.rankOf Conflict.rank
  simp only [h]

/-- The one phase that resolves names: a directive excuses the same hits in both sets. -/
theorem confirmMatches_congr (hw : set.WellFormed) (hu : set.Unambiguous) (hw' : set'.WellFormed)
    (hu' : set'.Unambiguous) (hrules : set'.rules = set.rules) (hnames : set.SameFormerNames set')
    (ctx : FileContext) (hits : List (Match ctx.tree)) :
    confirmMatches set' ctx hits = confirmMatches set ctx hits := by
  have hname : ∀ r ∈ set.rules, ∀ id,
      (set'.currentName? id == some r.name) = (set.currentName? id == some r.name) := by
    intro r hr id
    rw [Bool.eq_iff_iff, beq_iff_eq, beq_iff_eq, RuleSet.currentName?_eq_some_iff hw hu hr,
      RuleSet.currentName?_eq_some_iff hw' hu' (hrules ▸ hr), hnames r hr id]
  -- a hit without a rule is skipped; otherwise its rule is one of the set, and the names agree
  have htake : ∀ acc m, Confirmation.take set' ctx acc m = Confirmation.take set ctx acc m := by
    intro acc m
    have hrule : set'.rule? m.rule = set.rule? m.rule := congrArg (·[m.rule]?) hrules
    unfold Confirmation.take
    rw [hrule]
    split
    next => rfl
    next r hr =>
      unfold Confirmation.judge FileContext.allowed
      simp only [hname r (List.mem_of_getElem? hr)]
  exact congrArg (fun take => hits.foldl take {}) (funext fun acc => funext fun m => htake acc m)

/-- A run depends on former names only as far as they lead to rules of the set. -/
theorem Engine.runRules_congr (hw : set.WellFormed) (hu : set.Unambiguous) (hw' : set'.WellFormed)
    (hu' : set'.Unambiguous) (hrules : set'.rules = set.rules) (hnames : set.SameFormerNames set')
    (options : AnalyzeOptions) (ctx : FileContext) :
    runRules set' options ctx = runRules set options ctx := by
  have hrule : ∀ i, set'.rule? i = set.rule? i := fun i => congrArg (·[i]?) hrules
  unfold runRules proposeFixes findMatches
  simp only [hrules, confirmMatches_congr hw hu hw' hu' hrules hnames, collectFindings_congr hrule,
    Proposal.offer_congr hrule, resolveConflicts_congr hrule]

theorem Engine.run_congr (hw : set.WellFormed) (hu : set.Unambiguous) (hw' : set'.WellFormed)
    (hu' : set'.Unambiguous) (hrules : set'.rules = set.rules) (hnames : set.SameFormerNames set')
    (engine : Engine) (options : AnalyzeOptions) (path source : String) :
    engine.run set' options path source = engine.run set options path source := by
  rcases engine.run_cases options path source with ⟨outcome, hrun⟩ | ⟨ctx, hrun⟩
  · rw [hrun, hrun]
  · rw [hrun, hrun]
    exact runRules_congr hw hu hw' hu' hrules hnames options ctx

end SameRules

/-! ## The presets -/

/-- The former name that `minimal` leaves out leads to none of its rules. -/
theorem Preset.sameFormerNames {minimal set : RuleSet} (hrules : minimal.rules = Preset.minimal.rules)
    (hm : minimal.renames = formerNames .minimal) (hset : set.renames = formerNames .recommended) :
    minimal.SameFormerNames set := by
  have hnone : ∀ r ∈ Preset.minimal.rules,
      RuleSet.answersTo Catalog.noEmptyInterface.name r = false := by decide +kernel
  have hnew : (formerNames .minimal).find? (fun e => e.1 == "no-empty-type") = none := by
    decide +kernel
  intro r hr id
  rw [hrules] at hr
  unfold RuleSet.renamed?
  rw [hm, hset, formerNames_recommended, List.find?_cons]
  split
  next hid =>
    -- the former name that only the larger set knows
    rw [beq_iff_eq] at hid
    subst hid
    simp [hnew, hnone r hr]
  next => rfl

/-- **A severity floor is the same as not having the rules.** With the floor at warnings, the preset
with every rule reports what the preset of the warnings reports: the same diagnostics, with the same
fixes, states and notes, in the same order.

The same holds of every rule set in which no name is the code of another rule up to case: its
suggestions can be denied by name, and then the warnings alone report, under any floor, what the whole
set reports with the floor at warnings. Two things can tell the difference: functions of a warning that
look at the number of a hit, which is lower where there are fewer rules, and a filter among the options
that names a suggestion, for which the analysis is refused when it is gone. -/
theorem severity_floor_eq_removal (engine : Engine) (options : AnalyzeOptions)
    (path source : String) :
    (∃ recommended minimal, Preset.recommended.ruleSet = .ok recommended ∧
      Preset.minimal.ruleSet = .ok minimal ∧
      (engine.run recommended { options with minSeverity := .warning } path source).diagnostics =
        (engine.run minimal { options with minSeverity := .suggestion } path source).diagnostics) ∧
    ∀ rules : RuleSet, rules.Built → rules.Unambiguous →
      ∃ warnings,
        rules.filter { deny := (rules.rules.filter (·.severity == .suggestion)).map (·.name) } =
          .ok warnings ∧
        warnings.rules = rules.rules.filter (·.severity == .warning) ∧
        ((∀ r ∈ warnings.rules, r.IgnoresNumber) →
          (∀ id ∈ options.filter.allow ++ options.filter.deny, warnings.indexOf? id ≠ none) →
          ∀ floor, ∃ report part,
            { engine with rules }.analyzeSource { options with minSeverity := .warning } path source =
              .ok report ∧
            { engine with rules := warnings }.analyzeSource { options with minSeverity := floor } path
              source = .ok part ∧
            report.diagnostics = part.diagnostics) := by
  refine ⟨?_, fun rules hb hu => ⟨{ rules with rules := rules.rules.filter Rule.isWarning },
    ?_, rfl, fun hown hknown floor => ?_⟩⟩
  · obtain ⟨recommended, hr, hrrules, hrnames, hrb, hru⟩ := Preset.ruleSet_ok .recommended
    obtain ⟨minimal, hm, hmrules, hmnames, hmb, hmu⟩ := Preset.ruleSet_ok .minimal
    refine ⟨recommended, minimal, hr, hm, ?_⟩
    have hrestricts := RuleSet.restricts_only hrb.wellFormed hru Rule.isWarning
    -- the warnings of the one preset are the rules of the other
    have hrules : (recommended.only Rule.isWarning).rules = minimal.rules := by
      rw [hmrules, RuleSet.only_rules_eq_filter, hrrules]
      · rfl
      · intro r hmem _
        rw [hrrules] at hmem
        exact Catalog.ignoresNumber r hmem
    rw [engine.run_only_warnings hrb.wellFormed hru options path source .suggestion,
      engine.run_congr hmb.wellFormed hmu
        (hrb.wellFormed.of_labels_sublist hrestricts.labels_sublist hrestricts.renames)
        (hru.of_labels_sublist hrestricts.labels_sublist) hrules
        (Preset.sameFormerNames hmrules hmnames hrnames)]
  · have hdeny : rules.rules.filter (·.severity == .suggestion) =
        rules.rules.filter (!Rule.isWarning ·) :=
      List.filter_congr fun r _ => by cases h : r.severity <;> simp [Rule.isWarning, h]
    rw [hdeny]
    exact RuleSet.filter_deny_names hb.wellFormed hu Rule.isWarning
  · obtain ⟨chosen, hchosen, hpart⟩ := RuleSet.filter_leaving hb.wellFormed hu hknown
    obtain ⟨hsub, -⟩ := RuleSet.rules_sublist_of_filter_ok hchosen
    have honly : (chosen.only Rule.isWarning).rules = chosen.rules.filter Rule.isWarning :=
      RuleSet.only_rules_eq_filter fun r hr hq => hown r (List.mem_filter.2 ⟨hsub.subset hr, hq⟩)
    have hbuilt : chosen.Built := .filter hb hchosen
    have hrun := engine.run_only_warnings hbuilt.wellFormed (hu.of_labels_sublist (hsub.map _))
      options path source floor
    refine ⟨_, _, Engine.analyzeSource_eq_ok_iff.2 ⟨_, hchosen, rfl⟩,
      Engine.analyzeSource_eq_ok_iff.2 ⟨_, hpart, rfl⟩, ?_⟩
    rw [← honly]
    exact hrun

/-- A suggestion whose fix would win against that of a warning. -/
def pedantry : List Rule :=
  [{ wordRule "w1" "TY901" (.replace "swap" "node" "cd") with severity := .suggestion },
    wordRule "w2" "TY902" (.replace "swap back" "node" "ba")]

theorem built_pedantry : (wordRules pedantry).Built :=
  .ofRules (show RuleSet.ofRules pedantry = .ok (wordRules pedantry) from rfl)

theorem unambiguous_pedantry : (wordRules pedantry).Unambiguous := by
  unfold RuleSet.Unambiguous
  decide +kernel

/-- With the floor at warnings the suggestion is out of the way of the warning, as if it were not
there. -/
theorem severity_floor_eq_removal_pedantry :
    (wordRules pedantry).Built ∧ (wordRules pedantry).Unambiguous ∧
    ∃ warnings, (wordRules pedantry).filter { deny := ["w1"] } = .ok warnings ∧
      warnings.rules.map (·.name) = ["w2"] ∧
      (∀ r ∈ warnings.rules, r.IgnoresNumber) ∧
      ∃ report part,
        (wordEngine pedantry).analyzeSource { minSeverity := .warning } "a.ts" "ab" = .ok report ∧
        { wordEngine pedantry with rules := warnings }.analyzeSource {} "a.ts" "ab" = .ok part ∧
        report.diagnostics.length = 1 ∧ report.diagnostics = part.diagnostics := by
  obtain ⟨warnings, hfilter, hrules, hrun⟩ :=
    (severity_floor_eq_removal (wordEngine pedantry) {} "a.ts" "ab").2 _ built_pedantry
      unambiguous_pedantry
  have hnames : warnings.rules.map (·.name) = ["w2"] := by
    rw [hrules]
    rfl
  have hown : ∀ r ∈ warnings.rules, r.IgnoresNumber := by
    intro r hr i
    rw [hrules] at hr
    cases List.mem_singleton.1 hr
    rfl
  obtain ⟨report, part, hreport, hpart, hsame⟩ := hrun hown (fun _ hid => by cases hid) .suggestion
  have hlength := Engine.length_diagnostics_runRules (wordRules pedantry)
    { minSeverity := .warning } (.make "a.ts" wordTree none)
  obtain ⟨active, hactive, rfl⟩ := Engine.analyzeSource_eq_ok_iff.1 hreport
  cases hactive
  exact ⟨built_pedantry, unambiguous_pedantry, warnings, hfilter, hnames, hown, _, part, hreport,
    hpart, hlength, hsame⟩

/-- What tells warnings that the suggestions are gone. The warning that looks at its number reports the
word with a suggestion in front of it, and does not without. And the warnings are not even asked where
the filter among the options names a suggestion. -/
theorem floor_ne_removal :
    ((wordRules numbering).Built ∧ (wordRules numbering).Unambiguous ∧
      ∃ warnings, (wordRules numbering).filter { deny := ["w1"] } = .ok warnings ∧
        ∃ report part,
          (wordEngine numbering).analyzeSource { minSeverity := .warning } "a.ts" "ab" =
            .ok report ∧
          { wordEngine numbering with rules := warnings }.analyzeSource {} "a.ts" "ab" = .ok part ∧
          report.diagnostics.length = 1 ∧ part.diagnostics.length = 0) ∧
    (wordRules pedantry).Built ∧ (wordRules pedantry).Unambiguous ∧
      ∃ warnings, (wordRules pedantry).filter { deny := ["w1"] } = .ok warnings ∧
        ∃ report,
          (wordEngine pedantry).analyzeSource { filter := { deny := ["w1"] }, minSeverity := .warning }
            "a.ts" "ab" = .ok report ∧
          report.diagnostics.length = 1 ∧
          { wordEngine pedantry with rules := warnings }.analyzeSource { filter := { deny := ["w1"] } }
            "a.ts" "ab" = .error (.ruleSet (.unknownRule "w1")) := by
  constructor
  · have hwarnings : (wordRules numbering).filter { deny := ["w1"] } =
        .ok { wordRules numbering with rules := [numbering[1]] } :=
      RuleSet.filter_deny_names built_numbering.wellFormed unambiguous_numbering Rule.isWarning
    refine ⟨built_numbering, unambiguous_numbering, _, hwarnings, _, _, rfl, rfl, ?_, ?_⟩
    · exact Engine.length_diagnostics_runRules (wordRules numbering) { minSeverity := .warning }
        (.make "a.ts" wordTree none)
    · exact Engine.length_diagnostics_runRules
        { wordRules numbering with rules := [numbering[1]] } {} (.make "a.ts" wordTree none)
  · have hwarnings : (wordRules pedantry).filter { deny := ["w1"] } =
        .ok { wordRules pedantry with rules := [pedantry[1]] } :=
      RuleSet.filter_deny_names built_pedantry.wellFormed unambiguous_pedantry Rule.isWarning
    have hrefused : { wordRules pedantry with rules := [pedantry[1]] }.filter { deny := ["w1"] } =
        .error (.unknownRule "w1") :=
      RuleSet.filter_of_firstUnknown ⟨[], [], rfl, fun _ h => (by cases h), by decide +kernel⟩
    refine ⟨built_pedantry, unambiguous_pedantry, _, hwarnings, _,
      Engine.analyzeSource_eq_ok_iff.2 ⟨_, hwarnings, rfl⟩, ?_,
      Engine.analyzeSource_of_filter_error hrefused _ _⟩
    exact Engine.length_diagnostics_runRules { wordRules pedantry with rules := [pedantry[1]] }
      { filter := { deny := ["w1"] }, minSeverity := .warning } (.make "a.ts" wordTree none)

end TypeLint
