import TypeLint.Command.Check
import TypeLint.Proofs.Analysis.Faultless
import TypeLint.Proofs.Analysis.Isolation
import TypeLint.Proofs.Analysis.LifeCycle
import TypeLint.Proofs.FileStore.AllOrNothing

/-!
# The counts of a check beside its files

A summary is counted when the files were analyzed, and a check that makes fixes moves diagnostics on
afterwards. What it can do to one diagnostic is `Diagnostic.Moved`: nothing, or a proposal is applied
or rejected. `fixFiles_moved` says that fixing a batch does this to each of its diagnostics and
nothing else to its files, whatever happens to the files on the way.

So a move changes one count only, that of the proposals (`recount_moved`), and the three states in
which a proposal can be or end are together as many as before (`Diagnostic.Moved.census`). The
summary therefore still matches the files exactly when no fix was applied and none drifted
(`summary_matches_iff`).
-/

namespace TypeLint

/-! ## Moving diagnostics -/

/-- What making fixes may do to a diagnostic: nothing, or its proposal is applied or rejected. -/
inductive Diagnostic.Moved : Diagnostic → Diagnostic → Prop
  | kept (d : Diagnostic) : Moved d d
  | applied {d : Diagnostic} (h : d.state = .fixProposed) : Moved d { d with state := .applied }
  | rejected {d : Diagnostic} (h : d.state = .fixProposed) (note : Option String) :
      Moved d { d with state := .rejected, note }

/-- The diagnostics of a file moved on, and nothing else of its report changed. -/
def FileReport.Moved (r r' : FileReport) : Prop :=
  List.Forall₂ Diagnostic.Moved r.diagnostics r'.diagnostics ∧
    r' = { r with diagnostics := r'.diagnostics }

theorem FileReport.Moved.refl (r : FileReport) : r.Moved r :=
  ⟨List.forall₂_same.2 fun d _ => .kept d, rfl⟩

/-- How many diagnostics are in a state. -/
def DiagnosticState.count (state : DiagnosticState) (ds : List Diagnostic) : Nat :=
  ds.countP (·.state == state)

namespace Diagnostic

theorem moved_markApplied (d : Diagnostic) : d.Moved d.markApplied := by
  rw [markApplied_eq]
  split
  next h => exact .applied h
  next => exact .kept d

theorem moved_markDrifted (d : Diagnostic) : d.Moved d.markDrifted := by
  rw [markDrifted_eq]
  split
  next h => exact .rejected h _
  next => exact .kept d

namespace Moved

variable {ds ds' : List Diagnostic}

/-- Severities stay. -/
theorem countP_severity (h : List.Forall₂ Moved ds ds') (severity : Severity) :
    ds'.countP (·.severity == severity) = ds.countP (·.severity == severity) := by
  induction h with
  | nil => rfl
  | cons hd _ ih =>
    rw [List.countP_cons, List.countP_cons, ih]
    cases hd <;> rfl

/-- A proposal that is gone was applied or rejected, and nothing else changes its state. -/
theorem census (h : List.Forall₂ Moved ds ds') :
    DiagnosticState.fixProposed.count ds' + DiagnosticState.applied.count ds' +
        DiagnosticState.rejected.count ds' =
      DiagnosticState.fixProposed.count ds + DiagnosticState.applied.count ds +
        DiagnosticState.rejected.count ds ∧
    DiagnosticState.applied.count ds ≤ DiagnosticState.applied.count ds' ∧
    DiagnosticState.rejected.count ds ≤ DiagnosticState.rejected.count ds' := by
  simp only [DiagnosticState.count]
  induction h with
  | nil => exact ⟨rfl, le_rfl, le_rfl⟩
  | cons hd _ ih =>
    obtain ⟨hsum, happlied, hrejected⟩ := ih
    simp only [List.countP_cons]
    cases hd with
    | kept => omega
    | applied hs => simp [hs]; omega
    | rejected hs note => simp [hs]; omega

/-- With all its proposals still there, nothing moved. -/
theorem eq_of_count_eq (h : List.Forall₂ Moved ds ds')
    (hcount : DiagnosticState.fixProposed.count ds' = DiagnosticState.fixProposed.count ds) :
    ds' = ds := by
  induction h with
  | nil => rfl
  | @cons d d' ds ds' hd hds ih =>
    obtain ⟨hsum, happlied, hrejected⟩ := census hds
    simp only [DiagnosticState.count, List.countP_cons] at hsum happlied hrejected hcount ih
    cases hd with
    | kept => rw [ih (by omega)]
    | applied hs => simp [hs] at hcount; omega
    | rejected hs note => simp [hs] at hcount; omega

end Moved

end Diagnostic

/-! ## Fixing files -/

namespace FileStore

variable {store : FileStore} {path : String} {ds : List Diagnostic}

/-- Whatever comes of fixing a file, its diagnostics only move on. -/
theorem fix_moved (store : FileStore) (path : String) (ds : List Diagnostic) :
    List.Forall₂ Diagnostic.Moved ds (store.fix path ds).diagnostics := by
  obtain ⟨_, _, _, -, -, -, hfix⟩ | ⟨_, _, _, _, -, -, hfix⟩ | ⟨_, -, -, hfix⟩ :=
    fix_cases store path ds
  · rw [hfix, List.forall₂_map_right_iff, List.forall₂_same]
    exact fun d _ => d.moved_markApplied
  · rw [hfix, List.forall₂_map_right_iff, List.forall₂_same]
    exact fun d _ => d.moved_markDrifted
  · rw [hfix, List.forall₂_same]
    exact fun d _ => .kept d

/-- The fixes of a file cannot be made, and not because its text has changed. -/
def Refuses (store : FileStore) (path : String) (ds : List Diagnostic) : Prop :=
  ∃ e, (store.fix path ds).result = .error e ∧
    ∀ span expected found, e ≠ .sourceDrift span expected found

theorem fix_of_refuses (h : store.Refuses path ds) :
    (store.fix path ds).store = store ∧ (store.fix path ds).diagnostics = ds := by
  obtain ⟨e, herr, hdrift⟩ := h
  rw [fix_of_error herr]
  cases e with
  | sourceDrift span expected found => exact absurd rfl (hdrift span expected found)
  | _ => exact ⟨rfl, rfl⟩

/-- Proposals stay only where they are refused. -/
theorem refuses_of_fix_eq {d : Diagnostic} (hd : d ∈ ds) (hproposed : d.state = .fixProposed)
    (h : (store.fix path ds).diagnostics = ds) : store.Refuses path ds := by
  have hmap : ∀ f : Diagnostic → Diagnostic, ds.map f = ds → f d = d := fun f hf =>
    List.map_eq_map_iff.1 (hf.trans (List.map_id' ds).symm) d hd
  obtain ⟨_, _, _, -, -, -, hfix⟩ | ⟨_, _, _, _, -, -, hfix⟩ | ⟨e, hdrift, -, hfix⟩ :=
    fix_cases store path ds
  · rw [hfix] at h
    have hstate := congrArg Diagnostic.state (hmap _ h)
    exact absurd (hstate.trans hproposed) d.state_markApplied_ne
  · rw [hfix] at h
    have hstate := congrArg Diagnostic.state (hmap _ h)
    rw [d.markDrifted_eq, if_pos hproposed, hproposed] at hstate
    cases hstate
  · exact ⟨e, by rw [hfix], hdrift⟩

end FileStore

namespace Command

variable {store : FileStore} {r : FileReport}

theorem fixFiles_cons_of_fixable (h : isFixable r = true) (files : List FileReport) :
    (fixFiles store (r :: files)).2 =
      { r with diagnostics := (store.fix r.path r.diagnostics).diagnostics } ::
        (fixFiles (store.fix r.path r.diagnostics).store files).2 := by
  rw [fixFiles, if_pos h]

theorem fixFiles_cons_of_not_fixable (h : ¬ isFixable r = true) (files : List FileReport) :
    (fixFiles store (r :: files)).2 = r :: (fixFiles store files).2 := by
  rw [fixFiles, if_neg h]

theorem fixFiles_moved (store : FileStore) (files : List FileReport) :
    List.Forall₂ FileReport.Moved files (fixFiles store files).2 := by
  induction files generalizing store with
  | nil => exact .nil
  | cons r files ih =>
    by_cases hr : isFixable r = true
    · rw [fixFiles_cons_of_fixable hr]
      exact .cons ⟨store.fix_moved r.path r.diagnostics, rfl⟩ (ih _)
    · rw [fixFiles_cons_of_not_fixable hr]
      exact .cons (.refl r) (ih store)

/-- Fixing changes no report exactly when every file with a proposal refuses it. -/
theorem fixFiles_eq_self_iff (store : FileStore) (files : List FileReport) :
    (fixFiles store files).2 = files ↔
      ∀ r ∈ files, isFixable r = true → store.Refuses r.path r.diagnostics := by
  induction files with
  | nil => exact iff_of_true rfl fun r hr => absurd hr List.not_mem_nil
  | cons r files ih =>
    rw [List.forall_mem_cons]
    by_cases hr : isFixable r = true
    · rw [fixFiles_cons_of_fixable hr]
      constructor
      · intro h
        obtain ⟨hhead, htail⟩ := List.cons.inj h
        obtain ⟨d, hd, hstate⟩ := List.any_eq_true.1 hr
        have hrefuses := FileStore.refuses_of_fix_eq hd (eq_of_beq hstate)
          (congrArg FileReport.diagnostics hhead)
        -- a file that refuses leaves the store to the others as it was
        rw [(FileStore.fix_of_refuses hrefuses).1] at htail
        exact ⟨fun _ => hrefuses, ih.1 htail⟩
      · intro h
        obtain ⟨hstore, hdiagnostics⟩ := FileStore.fix_of_refuses (h.1 hr)
        rw [hdiagnostics, hstore, ih.2 h.2]
    · rw [fixFiles_cons_of_not_fixable hr, List.cons_eq_cons, ih]
      exact and_congr_left' ⟨fun _ h => absurd h hr, fun _ => rfl⟩

end Command

/-! ## Counting again -/

/-- The summaries differ at most in the number of proposals. -/
def BatchSummary.SameButFixable (s s' : BatchSummary) : Prop := s' = { s with fixable := s'.fixable }

section Recount

variable {files files' : List FileReport}

theorem forall₂_diagnostics (h : List.Forall₂ FileReport.Moved files files') :
    List.Forall₂ Diagnostic.Moved (files.flatMap (·.diagnostics))
      (files'.flatMap (·.diagnostics)) :=
  List.rel_flatMap h fun _ _ hr => hr.1

/-- Recording what moved on changes no count but that of the proposals. -/
theorem BatchSummary.SameButFixable.record {s s' : BatchSummary} {r r' : FileReport}
    (hs : s.SameButFixable s') (hr : r.Moved r') : (s.record r).SameButFixable (s'.record r') := by
  obtain ⟨hmoved, hrest⟩ := hr
  have hseverity := Diagnostic.Moved.countP_severity hmoved
  rw [hrest, SameButFixable, hs]
  simp only [BatchSummary.record, hseverity]
  cases r.outcome <;> rfl

theorem recount_moved (h : List.Forall₂ FileReport.Moved files files') :
    (BatchReport.ofFiles files).summary.SameButFixable (BatchReport.ofFiles files').summary := by
  have hrun : ∀ s s' : BatchSummary, s.SameButFixable s' →
      (files.foldl BatchSummary.record s).SameButFixable (files'.foldl BatchSummary.record s') := by
    induction h with
    | nil => exact fun _ _ hs => hs
    | cons hr _ ih => exact fun s s' hs => ih _ _ (hs.record hr)
  exact hrun {} {} rfl

/-- Counting again after a move gives the same summary exactly when it finds as many proposals. -/
theorem recount_eq_iff (h : List.Forall₂ FileReport.Moved files files') :
    (BatchReport.ofFiles files).summary = (BatchReport.ofFiles files').summary ↔
      DiagnosticState.fixProposed.count (files'.flatMap (·.diagnostics)) =
        (BatchReport.ofFiles files).summary.fixable := by
  have hcount : (BatchReport.ofFiles files').summary.fixable =
    DiagnosticState.fixProposed.count (files'.flatMap (·.diagnostics)) := (ofFiles_summary files').1
  rw [← hcount]
  constructor
  · intro heq
    rw [heq]
  · -- every other count is the same anyway
    intro heq
    rw [recount_moved h, heq]

/-- Files with all their proposals still there are as they were. -/
theorem files_eq_of_count_eq (h : List.Forall₂ FileReport.Moved files files')
    (hcount : DiagnosticState.fixProposed.count (files'.flatMap (·.diagnostics)) =
      DiagnosticState.fixProposed.count (files.flatMap (·.diagnostics))) : files' = files := by
  induction h with
  | nil => rfl
  | @cons r r' files files' hr hfiles ih =>
    obtain ⟨hsum, happlied, hrejected⟩ := Diagnostic.Moved.census hr.1
    obtain ⟨hsum', happlied', hrejected'⟩ := Diagnostic.Moved.census (forall₂_diagnostics hfiles)
    -- no file has more proposals than before, so each has as many
    simp only [List.flatMap_cons, DiagnosticState.count, List.countP_append] at *
    have hhead : r'.diagnostics = r.diagnostics :=
      Diagnostic.Moved.eq_of_count_eq hr.1 (by simp only [DiagnosticState.count]; omega)
    rw [ih (by omega), hr.2, hhead]

end Recount

/-! ## Checks -/

/-- No report of an analysis says that a fix was made. -/
theorem Engine.runFile_count_applied (engine : Engine) (store : FileStore) (rules : RuleSet)
    (options : AnalyzeOptions) (path : String) :
    DiagnosticState.applied.count (engine.runFile store rules options path).diagnostics = 0 := by
  have hrun : ∀ source,
      DiagnosticState.applied.count (engine.run rules options path source).diagnostics = 0 := by
    intro source
    rcases engine.run_cases options path source with ⟨outcome, hrun⟩ | ⟨ctx, hrun⟩
    · rw [hrun]
      rfl
    · rw [hrun]
      refine List.countP_eq_zero.2 fun d hd hstate => ?_
      have hsettled := runRules_settled rules options ctx d hd
      rw [Diagnostic.Settled, eq_of_beq hstate] at hsettled
      exact hsettled
  unfold runFile
  split
  next => rfl
  next =>
    split
    next => exact hrun _
    next => rfl

namespace Command

variable {environment : Environment} {parsers : List SourceParser} {store : FileStore}
  {named : Option String} {arguments : CheckArguments} {run : CheckRun}

/-- A check that ends analyzed some files, and then fixed them if it was asked to. -/
theorem exists_analysis_of_check (h : check environment parsers store named arguments = .ok run) :
    ∃ (engine : Engine) (options : AnalyzeOptions) (paths : List String) (batch : BatchReport),
      engine.analyzeFiles store options paths = .ok batch ∧
      run = if arguments.fix then fixReport store batch else ⟨batch, store⟩ := by
  simp only [check, bind, Except.bind] at h
  split at h
  next => cases h
  next config _ =>
    split at h
    next => cases h
    next engine _ =>
      split at h
      next => cases h
      next paths _ =>
        split at h
        next => cases h
        next batch hbatch =>
          cases h
          exact ⟨engine, _, paths, batch, hbatch, rfl⟩

/-- A check answers the counts of its analysis beside files that moved on since. Then no fix was
applied, and the rejected ones were counted. -/
theorem exists_moved_of_check (h : check environment parsers store named arguments = .ok run) :
    ∃ files : List FileReport,
      run.report.summary = (BatchReport.ofFiles files).summary ∧
      List.Forall₂ FileReport.Moved files run.report.files ∧
      (arguments.fix = false → run.report.files = files) ∧
      DiagnosticState.applied.count (files.flatMap (·.diagnostics)) = 0 ∧
      run.report.summary.rejectedFixes =
        DiagnosticState.rejected.count (files.flatMap (·.diagnostics)) := by
  obtain ⟨engine, options, paths, batch, hbatch, hrun⟩ := exists_analysis_of_check h
  have hrejected := analyzeFiles_rejectedFixes hbatch
  unfold Engine.analyzeFiles at hbatch
  cases hrules : engine.activeRules options.filter with
  | error e =>
    rw [hrules] at hbatch
    cases hbatch
  | ok rules =>
    rw [hrules] at hbatch
    cases hbatch
    have happlied : DiagnosticState.applied.count
        ((paths.map (engine.runFile store rules options)).flatMap (·.diagnostics)) = 0 := by
      refine List.countP_eq_zero.2 fun d hd => ?_
      obtain ⟨r, hr, hdr⟩ := List.mem_flatMap.1 hd
      obtain ⟨path, -, rfl⟩ := List.mem_map.1 hr
      exact List.countP_eq_zero.1 (engine.runFile_count_applied store rules options path) d hdr
    refine ⟨paths.map (engine.runFile store rules options), ?_⟩
    cases hfix : arguments.fix with
    | true =>
      rw [hfix] at hrun
      rw [hrun]
      exact ⟨rfl, fixFiles_moved store _, fun h => (by cases h), happlied, hrejected⟩
    | false =>
      rw [hfix] at hrun
      rw [hrun]
      exact ⟨rfl, List.forall₂_same.2 fun r _ => .refl r, fun _ => rfl, happlied, hrejected⟩

/-- **When the counts of a check match its files.** Making the fixes of a batch leaves every count as
counting again finds it, but that of the proposals; and that one too exactly when every file with a
proposal refuses it. Of a check this can be read off what it answers: the counts match when no fix is
applied and only as many are rejected as the analysis rejected. What is missing otherwise are the
fixes that were applied or drifted. A check that makes no fixes has the counts of its files. -/
theorem summary_matches_iff (environment : Environment) (parsers : List SourceParser)
    (store : FileStore) (named : Option String) (arguments : CheckArguments) :
    (∀ files : List FileReport,
      (fixReport store (.ofFiles files)).report.summary.SameButFixable
        (BatchReport.ofFiles (fixReport store (.ofFiles files)).report.files).summary ∧
      ((fixReport store (.ofFiles files)).report.summary =
          (BatchReport.ofFiles (fixReport store (.ofFiles files)).report.files).summary ↔
        ∀ r ∈ files, isFixable r = true → store.Refuses r.path r.diagnostics)) ∧
    ∀ run : CheckRun, check environment parsers store named arguments = .ok run →
      run.report.summary.SameButFixable (BatchReport.ofFiles run.report.files).summary ∧
      (run.report.summary = (BatchReport.ofFiles run.report.files).summary ↔
        DiagnosticState.fixProposed.count run.report.diagnostics = run.report.summary.fixable) ∧
      (run.report.summary = (BatchReport.ofFiles run.report.files).summary ↔
        DiagnosticState.applied.count run.report.diagnostics = 0 ∧
        DiagnosticState.rejected.count run.report.diagnostics =
          run.report.summary.rejectedFixes) ∧
      DiagnosticState.fixProposed.count run.report.diagnostics +
          DiagnosticState.applied.count run.report.diagnostics +
          DiagnosticState.rejected.count run.report.diagnostics =
        run.report.summary.fixable + run.report.summary.rejectedFixes ∧
      (arguments.fix = false →
        run.report.summary = (BatchReport.ofFiles run.report.files).summary) := by
  refine ⟨?_, ?_⟩
  · intro files
    have hmoved := fixFiles_moved store files
    refine ⟨recount_moved hmoved, ?_⟩
    rw [← fixFiles_eq_self_iff]
    constructor
    · intro h
      refine files_eq_of_count_eq hmoved ?_
      rw [(recount_eq_iff hmoved).1 h]
      exact (ofFiles_summary files).1
    · intro h
      rw [show (fixReport store (.ofFiles files)).report.files = files from h]
      rfl
  · intro run h
    obtain ⟨files, hsummary, hmoved, hplain, happlied, hrejected⟩ := exists_moved_of_check h
    obtain ⟨hsum, -, hmore⟩ := Diagnostic.Moved.census (forall₂_diagnostics hmoved)
    have hfixable : run.report.summary.fixable =
        DiagnosticState.fixProposed.count (files.flatMap (·.diagnostics)) := by
      rw [hsummary]
      exact (ofFiles_summary files).1
    have hiff := recount_eq_iff hmoved
    rw [← hsummary] at hiff
    refine ⟨hsummary ▸ recount_moved hmoved, hiff, hiff.trans ?_, ?_, ?_⟩
    · show DiagnosticState.fixProposed.count (run.report.files.flatMap (·.diagnostics)) = _ ↔ _
      simp only [BatchReport.diagnostics]
      omega
    · simp only [BatchReport.diagnostics]
      omega
    · intro hfix
      rw [hplain hfix, hsummary]

/-! A check of the text `any` with the rule that proposes `unknown` for it. -/

def anyParsers : List SourceParser := [⟨"types", ["ts"], fun _ _ => .ok (.ok anyTree)⟩]

/-- The file `a.ts`, with directories in which nothing can be written. -/
def anyStore (unwritable : List Place) : FileStore :=
  { items := [(["a.ts"], .file "any".toUTF8)], sealed := unwritable }

def fixAny : CheckArguments := { paths := ["a.ts"], fix := true, rules := ["no-explicit-any"] }

/-- The proposals that a check counts and the proposals of its files. -/
def proposals (result : Except CommandError CheckRun) : Option (Nat × Nat) :=
  result.toOption.map fun run =>
    (run.report.summary.fixable, DiagnosticState.fixProposed.count run.report.diagnostics)

set_option maxRecDepth 10000 in
theorem proposals_any :
    proposals (check [] anyParsers (anyStore []) none fixAny) = some (1, 0) ∧
    proposals (check [] anyParsers (anyStore [[]]) none fixAny) = some (1, 1) := by
  decide +kernel

theorem exists_run_of_proposals {result : Except CommandError CheckRun} {n m : Nat}
    (h : proposals result = some (n, m)) :
    ∃ run, result = .ok run ∧ run.report.summary.fixable = n ∧
      DiagnosticState.fixProposed.count run.report.diagnostics = m := by
  cases result with
  | error e => cases h
  | ok run =>
    cases h
    exact ⟨run, rfl, rfl, rfl⟩

/-- Where the file cannot be written its proposal stays, and the counts match. -/
theorem summary_matches_iff_unwritable :
    ∃ run, check [] anyParsers (anyStore [[]]) none fixAny = .ok run ∧
      run.report.summary.fixable = 1 ∧
      run.report.summary = (BatchReport.ofFiles run.report.files).summary := by
  obtain ⟨run, hrun, hfixable, hcount⟩ := exists_run_of_proposals proposals_any.2
  refine ⟨run, hrun, hfixable, ?_⟩
  obtain ⟨-, hiff, -⟩ := (summary_matches_iff _ _ _ _ _).2 run hrun
  exact hiff.2 (hcount.trans hfixable.symm)

/-- Where the fix is made, the summary still has it among the proposals. -/
theorem summary_counts_applied_fix :
    ∃ run, check [] anyParsers (anyStore []) none fixAny = .ok run ∧
      run.report.summary.fixable = 1 ∧
      DiagnosticState.fixProposed.count run.report.diagnostics = 0 ∧
      run.report.summary ≠ (BatchReport.ofFiles run.report.files).summary := by
  obtain ⟨run, hrun, hfixable, hcount⟩ := exists_run_of_proposals proposals_any.1
  refine ⟨run, hrun, hfixable, hcount, ?_⟩
  intro h
  have hagain : (BatchReport.ofFiles run.report.files).summary.fixable =
    DiagnosticState.fixProposed.count run.report.diagnostics := (ofFiles_summary _).1
  rw [← h, hfixable, hcount] at hagain
  cases hagain

end Command

end TypeLint
