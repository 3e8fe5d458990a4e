import Mathlib
import TypeLint.Engine.Files
import TypeLint.Proofs.Analysis.Election

/-!
# The life of a diagnostic, as a report shows it

A diagnostic passes through three hands: it is made as `diagnosed`, a fixer's answer is recorded on
it, and conflict resolution may withdraw its fix. `Diagnostic.Settled` says what it may carry in each
state in which it can reach a report, and `report_settled` that nothing else is ever reported.

The invariant is kept step by step. Whatever the fixer answered, recording it on a fresh diagnostic
settles it without rejecting it (`record_settled`); `offer_forall₂` says that offering findings is
nothing but recording one answer on each, so a broken fixer changes the answer and not the shape of
the result. Rejecting a settled proposal leaves it settled, and the rejected findings are counted by
the losers of the election (`countP_rejected_resolveConflicts`).
-/

namespace TypeLint

/-- What a diagnostic carries in a report on `source`: a proposal has one fix, with edits, made for
this text and applicable to it; without a proposal there is no fix, and a rejection says why. -/
def Diagnostic.Settled (source : String) (d : Diagnostic) : Prop :=
  match d.state with
  | .fixProposed =>
    ∃ fix, d.fixes = [fix] ∧ fix.edits ≠ [] ∧ fix.fingerprint = contentHash source ∧
      ∃ t, fix.apply source = .ok t
  | .fixUnavailable => d.fixes = []
  | .rejected => d.fixes = [] ∧ d.note.isSome = true
  | _ => False

/-- A diagnostic whose rule's fixer was not asked yet. -/
def Diagnostic.Fresh (d : Diagnostic) : Prop := d.state = .diagnosed ∧ d.fixes = []

/-! ## Findings -/

section Findings

variable {rules : RuleSet} {ctx : FileContext} {floor : Severity}

theorem ofMatch?_eq_some_iff {m : Match ctx.tree} {f : Finding ctx.tree} :
    Finding.ofMatch? rules ctx floor m = some f ↔
      ∃ rule, rules.rule? m.rule = some rule ∧ rule.severity.atLeast floor = true ∧
        f = ⟨Finding.diagnose ctx rule m, m⟩ := by
  unfold Finding.ofMatch?
  split
  next h => simp [h]
  next rule h =>
    split
    next hs =>
      refine ⟨fun heq => ⟨rule, h, hs, (Option.some.inj heq).symm⟩, ?_⟩
      intro h
      obtain ⟨rule', h', -, rfl⟩ := h
      rw [h, Option.some.injEq] at h'
      rw [h']
    next hs =>
      refine ⟨fun heq => absurd heq (by simp), ?_⟩
      intro h
      obtain ⟨rule', h', hs', -⟩ := h
      rw [h, Option.some.injEq] at h'
      exact absurd (h' ▸ hs') hs

/-- Every finding is the diagnostic of its hit, made by a rule of the set. -/
theorem exists_rule_of_mem_collectFindings {hits : List (Match ctx.tree)} {f : Finding ctx.tree}
    (h : f ∈ collectFindings rules ctx floor hits) :
    ∃ rule, rules.rule? f.hit.rule = some rule ∧ f.diagnostic = Finding.diagnose ctx rule f.hit := by
  rw [collectFindings, List.mem_mergeSort, List.mem_filterMap] at h
  obtain ⟨m, -, hm⟩ := h
  obtain ⟨rule, hrule, -, rfl⟩ := ofMatch?_eq_some_iff.1 hm
  exact ⟨rule, hrule, rfl⟩

end Findings

/-! ## Recording what a fixer answered -/

namespace Proposal

theorem moveTo_of_fresh {d : Diagnostic} {next : DiagnosticState} (hd : d.state = .diagnosed)
    (hnext : DiagnosticState.canMoveTo .diagnosed next = true) :
    moveTo d next = { d with state := next } := by
  unfold moveTo Diagnostic.transition
  rw [hd, if_pos hnext]

/-- A fix with edits that can be made is proposed, for the text with this hash. -/
theorem record_proposed (fingerprint : UInt64) {source t : String} {d : Diagnostic} {fix : Fix}
    (hd : d.state = .diagnosed) (hedits : fix.edits ≠ []) (happly : fix.apply source = .ok t) :
    record source fingerprint d (some (.proposed fix)) =
      { d with fixes := [{ fix with fingerprint }], state := .fixProposed } := by
  rw [record, if_neg (by simpa using hedits), happly]
  exact moveTo_of_fresh hd rfl

/-- Whatever the fixer answered, the diagnostic is settled, and not rejected. -/
theorem record_settled {source : String} {d : Diagnostic} (hd : d.Fresh)
    (outcome : Option FixOutcome) :
    (record source (contentHash source) d outcome).Settled source ∧
      (record source (contentHash source) d outcome).state ≠ .rejected := by
  obtain ⟨hstate, hfixes⟩ := hd
  have hplain : moveTo d .fixUnavailable = { d with state := .fixUnavailable } :=
    moveTo_of_fresh hstate rfl
  have hmanual : ∀ reason, manual d reason =
      { d with note := some ("manual: " ++ reason), state := .fixUnavailable } :=
    fun reason => moveTo_of_fresh hstate rfl
  cases outcome with
  | none =>
    rw [record, hplain]
    exact ⟨hfixes, fun h => by cases h⟩
  | some outcome =>
    cases outcome with
    | manual reason =>
      rw [record, hmanual]
      exact ⟨hfixes, fun h => by cases h⟩
    | proposed fix =>
      by_cases hedits : fix.edits = []
      · rw [record, if_pos (by rw [hedits]; rfl), hplain]
        exact ⟨hfixes, fun h => by cases h⟩
      · cases happly : fix.apply source with
        | ok t =>
          rw [record_proposed _ hstate hedits happly]
          exact ⟨⟨_, rfl, hedits, rfl, t, happly⟩, fun h => by cases h⟩
        | error e =>
          rw [record, if_neg (by simpa using hedits), happly]
          simp only [hmanual]
          exact ⟨hfixes, fun h => by cases h⟩

/-- Offering findings records one answer on each and changes nothing else. A finding without a rule
stays as it is. -/
theorem offer_forall₂ (rules : RuleSet) (ctx : FileContext) (fingerprint : UInt64) :
    ∀ (findings : List (Finding ctx.tree)) (failed : List Nat),
      List.Forall₂
        (fun f g => (rules.rule? f.hit.rule = none ∧ g = f) ∨ ∃ outcome,
          g = { f with diagnostic := record ctx.source fingerprint f.diagnostic outcome })
        findings (offer rules ctx fingerprint failed findings).1
  | [], _ => List.Forall₂.nil
  | f :: rest, failed => by
    rw [offer]
    split
    next hnone =>
      exact List.Forall₂.cons (Or.inl ⟨hnone, rfl⟩) (offer_forall₂ rules ctx fingerprint rest failed)
    next rule hrule =>
      simp only
      split
      next => exact List.Forall₂.cons (Or.inr ⟨_, rfl⟩) (offer_forall₂ rules ctx fingerprint rest failed)
      next fault hfault =>
        exact List.Forall₂.cons (Or.inr ⟨_, rfl⟩)
          (offer_forall₂ rules ctx fingerprint rest (f.hit.rule :: failed))

/-- Findings that are offered to their fixers come back settled, and none is rejected yet. -/
theorem offer_settled {rules : RuleSet} {ctx : FileContext} {findings : List (Finding ctx.tree)}
    (hfresh : ∀ f ∈ findings, f.diagnostic.Fresh ∧ ∃ rule, rules.rule? f.hit.rule = some rule)
    {g : Finding ctx.tree}
    (hg : g ∈ (offer rules ctx (contentHash ctx.source) [] findings).1) :
    g.diagnostic.Settled ctx.source ∧ g.diagnostic.state ≠ .rejected := by
  obtain ⟨i, hi⟩ := List.mem_iff_getElem?.1 hg
  have hall := offer_forall₂ rules ctx (contentHash ctx.source) findings []
  have hlt := (List.getElem?_eq_some_iff.1 hi).1
  have hlt' : i < findings.length := hall.length_eq ▸ hlt
  obtain ⟨hf, rule, hrule⟩ := hfresh findings[i] (List.getElem_mem hlt')
  have hrel := List.Forall₂.get hall hlt' hlt
  simp only [List.get_eq_getElem] at hrel
  rw [(List.getElem?_eq_some_iff.1 hi).2] at hrel
  rcases hrel with ⟨hnone, -⟩ | ⟨outcome, rfl⟩
  · rw [hrule] at hnone
    cases hnone
  · exact record_settled hf outcome

end Proposal

/-! ## Conflict resolution -/

section Resolution

variable {t : SyntaxTree} {rules : RuleSet} {policy : FixPolicy} {findings : List (Finding t)}

/-- Withdrawing a proposal that lost leaves every diagnostic settled. -/
theorem resolveConflicts_settled {source : String}
    (h : ∀ f ∈ findings, f.diagnostic.Settled source) {g : Finding t}
    (hg : g ∈ (resolveConflicts rules policy findings).1) : g.diagnostic.Settled source := by
  obtain ⟨i, hi⟩ := List.mem_iff_getElem?.1 hg
  rcases resolveConflicts_cases hi with ⟨hsame, -⟩ | ⟨f, winner, -, -, hstate, rfl⟩
  · exact h g (List.mem_of_getElem? hsame)
  · rw [Conflict.reject_of_proposed winner hstate]
    exact ⟨rfl, rfl⟩

/-- Among positions up to `n`, as many belong to a list without repetitions as it has entries. -/
theorem countP_mem_range {n : Nat} {positions : List Nat} (hn : positions.Nodup)
    (hlt : ∀ i ∈ positions, i < n) :
    (List.range n).countP (fun i => decide (i ∈ positions)) = positions.length := by
  rw [List.countP_eq_length_filter]
  refine List.Perm.length_eq ((List.perm_ext_iff_of_nodup ?_ hn).2 fun i => ?_)
  · exact List.nodup_range.filter _
  · rw [List.mem_filter, List.mem_range, decide_eq_true_eq]
    exact ⟨fun h => h.2, fun h => ⟨hlt i h, h⟩⟩

/-- There are as many losers as positions of losers. -/
theorem Conflict.countP_losers (rules : RuleSet) (policy : FixPolicy) (findings : List (Finding t)) :
    (List.range findings.length).countP
        (fun i => decide (i ∈ (losers rules policy findings).map (·.1))) =
      (losers rules policy findings).length := by
  have hpos : ∀ i ∈ (losers rules policy findings).map (·.1), i < findings.length := by
    intro i hi
    obtain ⟨⟨j, winner⟩, hmem, rfl⟩ := List.mem_map.1 hi
    obtain ⟨f, hf, -⟩ := proposed_of_mem_losers hmem
    exact (List.getElem?_eq_some_iff.1 hf).1
  rw [countP_mem_range (nodup_losers rules policy findings) hpos, List.length_map]

/-- Where nothing was rejected before, the number answered is the number of rejected findings. -/
theorem countP_rejected_resolveConflicts
    (h : ∀ f ∈ findings, f.diagnostic.state ≠ .rejected) :
    (resolveConflicts rules policy findings).1.countP (·.diagnostic.state == .rejected) =
      (resolveConflicts rules policy findings).2 := by
  show _ = (Conflict.losers rules policy findings).length
  rw [← Conflict.countP_losers, ← length_resolveConflicts rules policy findings, List.range_eq_range',
    ← List.zipIdx_map_snd 0 (resolveConflicts rules policy findings).1, List.countP_map]
  nth_rewrite 1 [← List.zipIdx_map_fst 0 (resolveConflicts rules policy findings).1]
  rw [List.countP_map]
  -- a finding is rejected now exactly when its position is that of a loser
  refine List.countP_congr fun ⟨g, i⟩ hmem => ?_
  simp only [Function.comp_apply, beq_iff_eq, decide_eq_true_eq]
  rcases resolveConflicts_cases (List.mem_zipIdx_iff_getElem?.1 hmem) with
    ⟨hsame, hnot⟩ | ⟨f, winner, -, hlost, hstate, rfl⟩
  · exact ⟨fun hs => absurd hs (h g (List.mem_of_getElem? hsame)), fun hi => absurd hi hnot⟩
  · rw [Conflict.reject_of_proposed winner hstate]
    exact ⟨fun _ => List.mem_map_of_mem hlost, fun _ => rfl⟩

end Resolution

/-! ## Reports -/

namespace Engine

/-- What the fixers have to work on is fresh, and of a rule of the set. -/
theorem collectFindings_fresh {rules : RuleSet} {ctx : FileContext} {floor : Severity}
    {hits : List (Match ctx.tree)} :
    ∀ f ∈ collectFindings rules ctx floor hits,
      f.diagnostic.Fresh ∧ ∃ rule, rules.rule? f.hit.rule = some rule := by
  intro f hf
  obtain ⟨rule, hrule, hdiag⟩ := exists_rule_of_mem_collectFindings hf
  rw [hdiag]
  exact ⟨⟨rfl, rfl⟩, rule, hrule⟩

theorem runRules_settled (rules : RuleSet) (options : AnalyzeOptions) (ctx : FileContext) :
    ∀ d ∈ (runRules rules options ctx).diagnostics, d.Settled ctx.source := by
  intro d hd
  obtain ⟨g, hg, rfl⟩ := List.mem_map.1 hd
  exact resolveConflicts_settled
    (fun f hf => (Proposal.offer_settled collectFindings_fresh hf).1) hg

theorem runRules_rejectedFixes (rules : RuleSet) (options : AnalyzeOptions) (ctx : FileContext) :
    (runRules rules options ctx).stats.rejectedFixes =
      (runRules rules options ctx).diagnostics.countP (·.state == .rejected) := by
  show _ = List.countP _ (List.map _ _)
  rw [List.countP_map]
  exact (countP_rejected_resolveConflicts
    fun f hf => (Proposal.offer_settled collectFindings_fresh hf).2).symm

/-- A report says `analyzed` exactly when the rules were run on a tree. -/
theorem run_eq_runRules {engine : Engine} {rules : RuleSet} {options : AnalyzeOptions}
    {path source : String} {tree : SyntaxTree} (hparse : engine.parse path source = .ok tree)
    (hdone : (engine.run rules options path source).outcome = .analyzed) :
    engine.run rules options path source =
      runRules rules options
        (.make path tree (if options.typeInfo then engine.oracle else none)) := by
  unfold run at hdone ⊢
  rw [hparse] at hdone ⊢
  simp only at hdone ⊢
  split at hdone
  next => cases hdone
  next => rfl

/-- The rejected fixes are counted in every report, whatever became of the file. -/
theorem run_rejectedFixes (engine : Engine) (rules : RuleSet) (options : AnalyzeOptions)
    (path source : String) :
    (engine.run rules options path source).stats.rejectedFixes =
      (engine.run rules options path source).diagnostics.countP (·.state == .rejected) := by
  unfold run
  split
  next => rfl
  next =>
    split
    next => rfl
    next => exact runRules_rejectedFixes _ _ _

theorem runFile_rejectedFixes (engine : Engine) (store : FileStore) (rules : RuleSet)
    (options : AnalyzeOptions) (path : String) :
    (engine.runFile store rules options path).stats.rejectedFixes =
      (engine.runFile store rules options path).diagnostics.countP (·.state == .rejected) := by
  unfold runFile
  split
  next => rfl
  next =>
    split
    next => exact run_rejectedFixes _ _ _ _ _
    next => rfl

end Engine

/-! ## The summary of a batch -/

/-- What recording reports adds to two of the counts. -/
theorem foldl_record (files : List FileReport) :
    ∀ s : BatchSummary,
      (files.foldl BatchSummary.record s).fixable =
        s.fixable + (files.flatMap (·.diagnostics)).countP (·.state == .fixProposed) ∧
      (files.foldl BatchSummary.record s).rejectedFixes =
        s.rejectedFixes + (files.map (·.stats.rejectedFixes)).sum := by
  induction files with
  | nil => intro s; exact ⟨rfl, rfl⟩
  | cons r files ih =>
    intro s
    have houtcome : (s.recordOutcome r.outcome).fixable = s.fixable ∧
        (s.recordOutcome r.outcome).rejectedFixes = s.rejectedFixes := by
      cases r.outcome <;> exact ⟨rfl, rfl⟩
    have hrecord : (s.record r).fixable =
          s.fixable + r.diagnostics.countP (·.state == .fixProposed) ∧
        (s.record r).rejectedFixes = s.rejectedFixes + r.stats.rejectedFixes := by
      rw [← houtcome.1, ← houtcome.2]
      exact ⟨rfl, rfl⟩
    rw [List.foldl_cons, (ih _).1, (ih _).2, hrecord.1, hrecord.2, List.flatMap_cons,
      List.countP_append, List.map_cons, List.sum_cons]
    omega

theorem sum_rejectedFixes {files : List FileReport}
    (h : ∀ r ∈ files, r.stats.rejectedFixes = r.diagnostics.countP (·.state == .rejected)) :
    (files.map (·.stats.rejectedFixes)).sum =
      (files.flatMap (·.diagnostics)).countP (·.state == .rejected) := by
  induction files with
  | nil => rfl
  | cons r files ih =>
    rw [List.map_cons, List.sum_cons, List.flatMap_cons, List.countP_append,
      ih fun r' hr' => h r' (List.mem_cons_of_mem _ hr'), h r (List.mem_cons_self ..)]

/-- The fixable and rejected counts of a summary are those of the reports it is over. -/
theorem ofFiles_summary (files : List FileReport) :
    (BatchReport.ofFiles files).summary.fixable =
      (BatchReport.ofFiles files).diagnostics.countP (·.state == .fixProposed) ∧
    (BatchReport.ofFiles files).summary.rejectedFixes =
      (files.map (·.stats.rejectedFixes)).sum := by
  obtain ⟨hfixable, hrejected⟩ := foldl_record files {}
  rw [Nat.zero_add] at hfixable hrejected
  exact ⟨hfixable, hrejected⟩

/-- A batch counts as rejected the diagnostics that it reports as rejected. -/
theorem analyzeFiles_rejectedFixes {engine : Engine} {store : FileStore} {options : AnalyzeOptions}
    {paths : List String} {batch : BatchReport}
    (h : engine.analyzeFiles store options paths = .ok batch) :
    batch.summary.rejectedFixes = batch.diagnostics.countP (·.state == .rejected) := by
  unfold Engine.analyzeFiles at h
  cases hrules : engine.activeRules options.filter with
  | error e =>
    rw [hrules] at h
    cases h
  | ok rules =>
    rw [hrules] at h
    cases h
    rw [(ofFiles_summary _).2]
    refine sum_rejectedFixes fun r hr => ?_
    obtain ⟨path, -, rfl⟩ := List.mem_map.1 hr
    exact engine.runFile_rejectedFixes store rules options path

/-- **What a report may say of a diagnostic.** Whatever the rules' functions do, in a report on a
text that was analyzed every diagnostic is settled and the rejected ones are counted; and the summary
of a batch counts proposals and rejections as its reports show them. -/
theorem report_settled {engine : Engine} {rules : RuleSet} {options : AnalyzeOptions}
    {path source : String} {tree : SyntaxTree} (hparse : engine.parse path source = .ok tree)
    (htext : tree.source = source)
    (hdone : (engine.run rules options path source).outcome = .analyzed) :
    (∀ d ∈ (engine.run rules options path source).diagnostics, d.Settled source) ∧
    (engine.run rules options path source).stats.rejectedFixes =
      (engine.run rules options path source).diagnostics.countP (·.state == .rejected) ∧
    (∀ files : List FileReport,
      (BatchReport.ofFiles files).summary.fixable =
        (BatchReport.ofFiles files).diagnostics.countP (·.state == .fixProposed) ∧
      (BatchReport.ofFiles files).summary.rejectedFixes =
        (files.map (·.stats.rejectedFixes)).sum) ∧
    ∀ (store : FileStore) (paths : List String) (batch : BatchReport),
      engine.analyzeFiles store options paths = .ok batch →
      batch.summary.rejectedFixes = batch.diagnostics.countP (·.state == .rejected) := by
  refine ⟨?_, engine.run_rejectedFixes rules options path source, ofFiles_summary,
    fun store paths batch => analyzeFiles_rejectedFixes⟩
  rw [Engine.run_eq_runRules hparse hdone, ← htext]
  exact Engine.runRules_settled _ _ _

/-! ## A small report

The text `ab`, parsed as a program of one word. -/

def wordEntries : Array Tree.Entry :=
  #[⟨none, "program", none, true, 0, 2⟩, ⟨some 0, "word", none, true, 0, 2⟩]

def wordTree : SyntaxTree where
  source := "ab"
  entries := wordEntries
  childIds := Tree.childLists wordEntries
  coherent := Tree.firstError?_eq_none_iff.1 (by decide +kernel)
  nonempty := by decide
  childIds_eq := rfl

theorem one_lt_size_wordTree : 1 < wordTree.entries.size := by decide

/-- The word. -/
def wordNode : Node wordTree := ⟨1, one_lt_size_wordTree⟩

/-- A rule that reports every word and fixes it in this way. -/
def wordRule (name code : String) (fixer : Fixer) : Rule :=
  { name, code, severity := .warning, matcher := .pattern (.kind "word"), fixer := some fixer }

def wordRules (rules : List Rule) : RuleSet := { version := "0", rules, renames := [] }

/-- An engine to whom every text is `ab`. -/
def wordEngine (rules : List Rule) : Engine :=
  { rules := wordRules rules
    parsers := [⟨"words", ["ts"], fun _ _ => .ok (.ok wordTree)⟩]
    oracle := none }

/-- A rule that replaces words, one that conflicts with it, and one whose fixer breaks down. -/
def quarrel : List Rule :=
  [wordRule "w1" "TY901" (.replace "swap" "node" "cd"),
    wordRule "w2" "TY902" (.replace "swap back" "node" "ba"),
    wordRule "w3" "TY903" (.custom fun _ _ => .error ⟨"out of order"⟩)]

theorem report_settled_quarrel :
    (wordEngine quarrel).parse "a.ts" "ab" = .ok wordTree ∧
    ((wordEngine quarrel).run (wordRules quarrel) {} "a.ts" "ab").outcome = .analyzed ∧
    ∀ d ∈ ((wordEngine quarrel).run (wordRules quarrel) {} "a.ts" "ab").diagnostics,
      d.Settled "ab" := by
  have hparse : (wordEngine quarrel).parse "a.ts" "ab" = .ok wordTree := rfl
  have hdone : ((wordEngine quarrel).run (wordRules quarrel) {} "a.ts" "ab").outcome =
    .analyzed := rfl
  exact ⟨hparse, hdone, (report_settled hparse rfl hdone).1⟩

end TypeLint
