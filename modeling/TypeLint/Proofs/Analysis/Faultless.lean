import TypeLint.Proofs.Analysis.Provenance
import TypeLint.Proofs.Catalog.Fixers
import TypeLint.Proofs.Catalog.Presets
import TypeLint.TypeInfo.Local

/-!
# Analyses that cannot fail

Rules whose functions do not break down and whose fixers are sound make an analysis without failures,
in which no fix is refused because it cannot be made. Phase by phase no failure is added
(`findMatches_failures`, `confirmMatches_failures`, `offer_of_safe`), and a sound answer is recorded
without the note that says otherwise (`record_note_ne`). Conflict resolution leaves notes of its own,
which say something else.

The built-in rules are such rules, so `presets_cannot_fail`: no file, whatever its tree looks like,
makes a preset fail.
-/

namespace TypeLint

/-- The note on a diagnostic whose fix was refused because it cannot be made. -/
def Proposal.staleNote : String := "manual: " ++ Proposal.staleReason

/-! ## No phase adds a failure -/

section Phases

variable {rules : RuleSet} {ctx : FileContext}

theorem Matching.tryRule_failures {n : Node ctx.tree} {acc : Matching ctx.tree} {e : Rule × Nat}
    (hsafe : e.1.Safe) : (tryRule ctx n acc e).failures = acc.failures := by
  obtain ⟨captures, hok⟩ := hsafe.evaluates ctx n
  unfold tryRule
  simp only [hok]
  split
  next => rfl
  next => cases captures <;> rfl

theorem findMatches_failures (hsafe : ∀ r ∈ rules.rules, r.Safe) :
    (findMatches rules ctx).failures = #[] := by
  unfold findMatches Matching.tryNode
  refine List.foldlRecOn (motive := fun acc : Matching ctx.tree => acc.failures = #[]) _ _ rfl ?_
  intro acc hacc n _
  refine List.foldlRecOn (motive := fun acc : Matching ctx.tree => acc.failures = #[]) _ _ hacc ?_
  intro acc hacc e he
  have hmem : e.1 ∈ rules.rules := List.mem_of_getElem? (List.mem_zipIdx_iff_getElem?.1 he)
  rw [Matching.tryRule_failures (hsafe e.1 hmem), hacc]

/-- A hit of a safe rule is judged. -/
theorem Confirmation.exists_judge (rules : RuleSet) {r : Rule} (hsafe : r.Safe) (m : Match ctx.tree) :
    ∃ verdict, judge rules ctx r m = .ok verdict := by
  unfold judge
  split
  next => exact ⟨_, rfl⟩
  next =>
    split
    next => exact ⟨_, rfl⟩
    next =>
      split
      next => exact ⟨_, rfl⟩
      next confirm hconfirm => exact hsafe.confirms confirm hconfirm ctx m

theorem confirmMatches_failures (hsafe : ∀ r ∈ rules.rules, r.Safe) (hits : List (Match ctx.tree)) :
    (confirmMatches rules ctx hits).failures = #[] := by
  unfold confirmMatches
  refine List.foldlRecOn (motive := fun acc : Confirmation ctx.tree => acc.failures = #[])
    _ _ rfl ?_
  intro acc hacc m _
  unfold Confirmation.take
  split
  next => exact hacc
  next r hr =>
    have hmem : r ∈ rules.rules := List.mem_of_getElem? hr
    obtain ⟨verdict, hjudge⟩ := Confirmation.exists_judge rules (hsafe r hmem) m
    split
    next => exact hacc
    next =>
      rw [hjudge]
      cases verdict <;> exact hacc

end Phases

/-! ## Fixes -/

namespace Proposal

variable {ctx : FileContext}

theorem note_moveTo (d : Diagnostic) (next : DiagnosticState) : (moveTo d next).note = d.note := by
  unfold moveTo Diagnostic.transition
  cases d.state.canMoveTo next <;> rfl

/-- A sound answer is recorded without the note that a fix cannot be made. -/
theorem record_note_ne {source : String} {fingerprint : UInt64} {d : Diagnostic}
    {outcome : Option FixOutcome} (hnote : d.note = none)
    (hsound : ∀ o, outcome = some o → o.Sound source) :
    (record source fingerprint d outcome).note ≠ some staleNote := by
  have hplain : d.note ≠ some staleNote := by
    rw [hnote]
    exact fun h => by cases h
  unfold record
  split
  next => rwa [note_moveTo]
  next reason =>
    unfold manual
    rw [note_moveTo]
    intro h
    -- equal notes have equal reasons
    have hreason := String.append_right_inj "manual: " |>.1 (Option.some.inj h)
    exact hsound _ rfl hreason
  next fix =>
    obtain ⟨t, happly⟩ := hsound _ rfl
    split
    next => rwa [note_moveTo]
    next =>
      rw [happly]
      simp only
      rwa [note_moveTo]

/-- A safe rule answers, and what it answers is sound. -/
theorem ask_of_safe {r : Rule} (hsafe : r.Safe) (m : Match ctx.tree) :
    (ask ctx r false m).2 = none ∧ ∀ o, (ask ctx r false m).1 = some o → o.Sound ctx.source := by
  unfold ask
  split
  next => exact ⟨rfl, fun o h => by cases h⟩
  next fixer hfixer =>
    obtain ⟨outcome, hrun, hsound⟩ := hsafe.fixes fixer hfixer ctx m
    rw [if_neg Bool.false_ne_true, hrun]
    refine ⟨rfl, fun o h => ?_⟩
    cases h
    exact hsound

/-- Offered to safe rules, findings come back without a failure and without the note that a fix cannot
be made. -/
theorem offer_of_safe {rules : RuleSet} (hsafe : ∀ r ∈ rules.rules, r.Safe) (fingerprint : UInt64) :
    ∀ {findings : List (Finding ctx.tree)}, (∀ f ∈ findings, f.diagnostic.note = none) →
      (offer rules ctx fingerprint [] findings).2 = [] ∧
      ∀ g ∈ (offer rules ctx fingerprint [] findings).1, g.diagnostic.note ≠ some staleNote
  | [], _ => ⟨rfl, fun g hg => by cases hg⟩
  | f :: rest, hnotes => by
    have hf := hnotes f List.mem_cons_self
    obtain ⟨hfailures, hrest⟩ := offer_of_safe hsafe fingerprint
      fun g hg => hnotes g (List.mem_cons_of_mem _ hg)
    cases hr : rules.rule? f.hit.rule with
    | none =>
      rw [offer_cons_of_none hr]
      refine ⟨hfailures, List.forall_mem_cons.2 ⟨?_, hrest⟩⟩
      rw [hf]
      exact fun h => by cases h
    | some r =>
      obtain ⟨hfault, hsound⟩ := ask_of_safe (hsafe r (List.mem_of_getElem? hr)) f.hit
      -- nobody has failed yet, and the rule does not fail now
      have hnobody : ([] : List Nat).contains f.hit.rule = false := rfl
      rw [offer_cons_of_some hr]
      simp only [hnobody, hfault]
      exact ⟨hfailures, List.forall_mem_cons.2 ⟨record_note_ne hf hsound, hrest⟩⟩

end Proposal

/-- The note of a withdrawn fix says that it lost. -/
theorem Conflict.note_reject_ne {d : Diagnostic} (winner : String) (h : d.state = .fixProposed) :
    (reject d winner).note ≠ some Proposal.staleNote := by
  rw [reject_of_proposed winner h]
  intro heq
  -- both notes start alike; the reasons behind the colon do not
  have hlead : "manual: conflicts with fix from `" = "manual: " ++ "conflicts with fix from `" := by
    decide
  have hnote := Option.some.inj heq
  rw [hlead, String.append_assoc, String.append_assoc] at hnote
  have hreason := String.append_right_inj "manual: " |>.1 hnote
  exact Text.append_ne_of_head? (by rfl) (by decide) _ hreason

/-! ## Reports -/

namespace Engine

/-- Safe rules report without a failure, and no fix of theirs is refused because it cannot be made. -/
theorem runRules_of_safe {rules : RuleSet} (hsafe : ∀ r ∈ rules.rules, r.Safe)
    (options : AnalyzeOptions) (ctx : FileContext) :
    (runRules rules options ctx).failures = [] ∧
    ∀ d ∈ (runRules rules options ctx).diagnostics, d.note ≠ some Proposal.staleNote := by
  have hnotes : ∀ f ∈ findings rules ctx options.minSeverity, f.diagnostic.note = none := by
    intro f hf
    obtain ⟨-, r, -, hdiag⟩ := sound_of_mem_findings hf
    rw [hdiag]
    rfl
  obtain ⟨hfixing, hoffered⟩ := Proposal.offer_of_safe hsafe (contentHash ctx.source) hnotes
  refine ⟨?_, fun d hd => ?_⟩
  · show (findMatches rules ctx).failures.toList ++
      (confirmMatches rules ctx (findMatches rules ctx).found.toList).failures.toList ++
      (Proposal.offer rules ctx (contentHash ctx.source) []
        (findings rules ctx options.minSeverity)).2 = []
    rw [findMatches_failures hsafe, confirmMatches_failures hsafe, hfixing]
    rfl
  · obtain ⟨g, hg, rfl⟩ := List.mem_map.1 hd
    obtain ⟨i, hi⟩ := List.mem_iff_getElem?.1 hg
    -- conflict resolution leaves a finding as it came from its fixer, or withdraws its fix
    rcases resolveConflicts_cases hi with ⟨hsame, -⟩ | ⟨f, winner, -, -, hstate, rfl⟩
    · exact hoffered g (List.mem_of_getElem? hsame)
    · exact Conflict.note_reject_ne winner hstate

end Engine

/-- **The built-in catalog cannot fail.** Take a preset, any selection of its rules and any file with a
tree, whatever kinds, fields and spans the tree has, and ask with or without types. Without a time
limit the file is analyzed, no rule breaks down and none is skipped, and no diagnostic bears the note
that a fix cannot be made. What a built-in fixer proposes for a hit can be made in the text of its
file, and so can what a fixer by templates proposes, whatever its templates are. -/
theorem presets_cannot_fail (p : Preset) :
    ∃ set, p.ruleSet = .ok set ∧
      (∀ (engine : Engine) (options : AnalyzeOptions) (path source : String) (tree : SyntaxTree)
          (report : FileReport),
        engine.rules = set → options.timeoutMs = none → engine.parse path source = .ok tree →
        engine.analyzeSource options path source = .ok report →
        report.outcome = .analyzed ∧ report.failures = [] ∧ report.stats.skippedRules = 0 ∧
        ∀ d ∈ report.diagnostics, d.note ≠ some "manual: generated fix does not apply") ∧
      (∀ r ∈ set.rules, ∀ fixer, r.fixer = some fixer →
        ∀ (ctx : FileContext) (m : Match ctx.tree),
          ∃ outcome, fixer.run ctx m = .ok outcome ∧
            ∀ fix, outcome = .proposed fix → ∃ t, fix.apply ctx.source = .ok t) ∧
      ∀ (description : String) (templates : List EditTemplate) (confidence : Confidence)
          (ctx : FileContext) (m : Match ctx.tree) (fix : Fix),
        (Fixer.template description templates confidence).run ctx m = .ok (.proposed fix) →
          ∃ t, fix.apply ctx.source = .ok t := by
  obtain ⟨set, hset, hrules, -, -, -⟩ := p.ruleSet_ok
  have hsafe : ∀ r ∈ set.rules, r.Safe := by
    intro r hr
    rw [hrules] at hr
    exact Catalog.rule_safe (Preset.mem_catalog hr)
  refine ⟨set, hset, ?_, ?_, ?_⟩
  · intro engine options path source tree report hengine htime hparse hreport
    obtain ⟨active, hfilter, rfl⟩ := Engine.analyzeSource_eq_ok_iff.1 hreport
    rw [hengine] at hfilter
    have hactive : ∀ r ∈ active.rules, r.Safe :=
      fun r hr => hsafe r ((RuleSet.rules_sublist_of_filter_ok hfilter).1.subset hr)
    have hrun : engine.run active options path source = Engine.runRules active options
        (.make path tree (if options.typeInfo then engine.oracle else none)) := by
      unfold Engine.run
      rw [hparse, htime]
      rfl
    obtain ⟨hfailures, hnotes⟩ := Engine.runRules_of_safe hactive options
      (.make path tree (if options.typeInfo then engine.oracle else none))
    rw [hrun]
    refine ⟨rfl, hfailures, ?_, hnotes⟩
    show ((Engine.runRules active options _).failures.map (·.rule)).eraseDups.length = 0
    rw [hfailures]
    rfl
  · intro r hr fixer hfixer ctx m
    obtain ⟨outcome, hrun, hsound⟩ := (hsafe r hr).fixes fixer hfixer ctx m
    refine ⟨outcome, hrun, fun fix hfix => ?_⟩
    rw [hfix] at hsound
    exact hsound
  · intro description templates confidence ctx m fix hfix
    obtain ⟨outcome, hrun, hsound⟩ :=
      Fixer.run_template_sound description templates confidence ctx m
    rw [hfix] at hrun
    cases hrun
    exact hsound

/-! ## A file for the presets

The text `any`, parsed as a program of one type. -/

def anyEntries : Array Tree.Entry :=
  #[⟨none, "program", none, true, 0, 3⟩, ⟨some 0, "predefined_type", none, true, 0, 3⟩]

def anyTree : SyntaxTree where
  source := "any"
  entries := anyEntries
  childIds := Tree.childLists anyEntries
  coherent := Tree.firstError?_eq_none_iff.1 (by decide +kernel)
  nonempty := by decide
  childIds_eq := rfl

/-- An engine with these rules and the local oracle, to whom every text is `any`. -/
def anyEngine (rules : RuleSet) : Engine :=
  { rules
    parsers := [⟨"types", ["ts"], fun _ _ => .ok (.ok anyTree)⟩]
    oracle := some LocalTypes.oracle }

/-- One rule of the preset, asked for by name, reports the type, without a failure. -/
theorem presets_cannot_fail_any :
    ∃ set report, Preset.recommended.ruleSet = .ok set ∧
      (anyEngine set).parse "a.ts" "any" = .ok anyTree ∧
      (anyEngine set).analyzeSource { filter := { allow := ["no-explicit-any"] } } "a.ts" "any" =
        .ok report ∧
      report.outcome = .analyzed ∧ report.failures = [] ∧ report.stats.skippedRules = 0 ∧
      report.diagnostics.length = 1 ∧
      ∀ d ∈ report.diagnostics, d.note ≠ some "manual: generated fix does not apply" := by
  obtain ⟨set, hset, hreports, -, -⟩ := presets_cannot_fail .recommended
  obtain ⟨set', hset', hrules, -, hbuilt, hunambiguous⟩ := Preset.recommended.ruleSet_ok
  rw [hset] at hset'
  cases hset'
  have hparse : (anyEngine set).parse "a.ts" "any" = .ok anyTree := rfl
  have hrule : set.rule? 1 = some Catalog.noExplicitAny := by
    unfold RuleSet.rule?
    rw [hrules]
    rfl
  have hfilter : set.filter { allow := ["no-explicit-any"] } =
      .ok { set with rules := [Catalog.noExplicitAny] } :=
    RuleSet.filter_allow_name hbuilt.wellFormed hunambiguous (List.mem_of_getElem? hrule)
  have hreport : (anyEngine set).analyzeSource { filter := { allow := ["no-explicit-any"] } } "a.ts"
      "any" = .ok ((anyEngine set).run { set with rules := [Catalog.noExplicitAny] }
        { filter := { allow := ["no-explicit-any"] } } "a.ts" "any") :=
    Engine.analyzeSource_eq_ok_iff.2 ⟨_, hfilter, rfl⟩
  obtain ⟨houtcome, hfailures, hskipped, hnotes⟩ :=
    hreports (anyEngine set) _ "a.ts" "any" anyTree _ rfl rfl hparse hreport
  have hlength := Engine.length_diagnostics_runRules
    { set with rules := [Catalog.noExplicitAny] } { filter := { allow := ["no-explicit-any"] } }
    (.make "a.ts" anyTree (some LocalTypes.oracle))
  exact ⟨set, _, hset, hparse, hreport, houtcome, hfailures, hskipped, hlength, hnotes⟩

end TypeLint
