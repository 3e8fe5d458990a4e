import TypeLint.Proofs.Analysis.Isolation
import TypeLint.Proofs.Pattern.Captures
import TypeLint.Proofs.Tree.Building

/-!
# Where diagnostics come from

A diagnostic is the work of one rule on one node. `Match.Sound` says so of a hit: it is what the rule
at its position captured there, and no later phase makes a hit of its own. Finding hits keeps the
invariant rule by rule and node by node (`sound_of_mem_findMatches`), confirming and collecting only
leave hits out, and fixes do not touch where a diagnostic points (`Engine.runRules_bare`).

What follows for the reader of a report is `diagnostics_point_into_tree`: every diagnostic is at a
node of the file's tree and bears the identifiers of a rule that was run.
-/

namespace TypeLint

/-- The hit is what the rule at its position captured on some node. -/
def Match.Sound (rules : RuleSet) (ctx : FileContext) (m : Match ctx.tree) : Prop :=
  ∃ r n captures, rules.rule? m.rule = some r ∧ r.evaluate ctx n = .ok (some captures) ∧
    m = Matching.hit r m.rule n captures

/-! ## The phases -/

namespace Matching

variable {rules : RuleSet} {ctx : FileContext}

/-- A hit is reported at a node: the one captured as the span, or else the one it fired on. -/
theorem exists_node_hit_span {t : SyntaxTree} (r : Rule) (i : Nat) (n : Node t)
    (captures : Captures t) : ∃ k : Node t, (hit r i n captures).span = k.span := by
  unfold hit Captures.span?
  cases captures.node? spanCapture with
  | none => exact ⟨n, rfl⟩
  | some k => exact ⟨k, rfl⟩

/-- Trying one rule adds at most its own hit. -/
theorem sound_tryRule {n : Node ctx.tree} {acc : Matching ctx.tree} {e : Rule × Nat}
    (he : rules.rule? e.2 = some e.1) (h : ∀ m ∈ acc.found, m.Sound rules ctx) :
    ∀ m ∈ (tryRule ctx n acc e).found, m.Sound rules ctx := by
  intro m hm
  unfold tryRule at hm
  simp only at hm
  split at hm
  next => exact h m hm
  next =>
    split at hm
    next => exact h m hm
    next captures hok =>
      rcases Array.mem_push.1 hm with hm | rfl
      · exact h m hm
      · exact ⟨e.1, n, captures, he, hok, rfl⟩
    next => exact h m hm

end Matching

section Phases

variable {rules : RuleSet} {ctx : FileContext}

/-- Every hit of a rule set is what one of its rules captured. -/
theorem sound_of_mem_findMatches : ∀ m ∈ (findMatches rules ctx).found, m.Sound rules ctx := by
  unfold findMatches Matching.tryNode
  -- one loop over the nodes, and for each node one over the rules; both keep the invariant
  refine List.foldlRecOn (motive := fun acc : Matching ctx.tree => ∀ m ∈ acc.found, m.Sound rules ctx)
    _ _ (fun m hm => by simp at hm) ?_
  intro acc hacc n _
  refine List.foldlRecOn (motive := fun acc : Matching ctx.tree => ∀ m ∈ acc.found, m.Sound rules ctx)
    _ _ hacc ?_
  intro acc hacc e he
  exact Matching.sound_tryRule (List.mem_zipIdx_iff_getElem?.1 he) hacc

/-- Only hits are confirmed. -/
theorem mem_of_mem_confirmMatches {hits : List (Match ctx.tree)} :
    ∀ m ∈ (confirmMatches rules ctx hits).confirmed, m ∈ hits := by
  unfold confirmMatches
  refine List.foldlRecOn (motive := fun acc : Confirmation ctx.tree => ∀ m ∈ acc.confirmed, m ∈ hits)
    _ _ (fun m hm => by simp at hm) ?_
  intro acc hacc hit hhit m hm
  unfold Confirmation.take at hm
  split at hm
  next => exact hacc m hm
  next =>
    split at hm
    next => exact hacc m hm
    next =>
      split at hm
      next =>
        rcases Array.mem_push.1 hm with hm | rfl
        · exact hacc m hm
        · exact hhit
      next => exact hacc m hm
      next => exact hacc m hm
      next => exact hacc m hm

theorem Finding.distinctFrom_sublist {t : SyntaxTree} :
    ∀ (hits : List (Match t)) (seen : List (Nat × Span)), (distinctFrom seen hits).Sublist hits
  | [], _ => List.Sublist.refl _
  | m :: rest, seen => by
    rw [distinctFrom]
    split
    next => exact (distinctFrom_sublist rest seen).cons _
    next => exact (distinctFrom_sublist rest _).cons_cons _

/-- A finding is of one of the hits. -/
theorem hit_mem_of_mem_collectFindings {floor : Severity} {hits : List (Match ctx.tree)}
    {f : Finding ctx.tree} (h : f ∈ collectFindings rules ctx floor hits) : f.hit ∈ hits := by
  rw [collectFindings, List.mem_mergeSort, List.mem_filterMap] at h
  obtain ⟨m, hm, hf⟩ := h
  obtain ⟨r, -, -, rfl⟩ := ofMatch?_eq_some_iff.1 hf
  exact (Finding.distinctFrom_sublist hits []).subset hm

/-- What a run of the rules reports, before its fixes are looked at. -/
def Engine.findings (rules : RuleSet) (ctx : FileContext) (floor : Severity) :
    List (Finding ctx.tree) :=
  collectFindings rules ctx floor
    (confirmMatches rules ctx (findMatches rules ctx).found.toList).confirmed.toList

/-- Every finding is the diagnostic of a sound hit, made by its rule. -/
theorem Engine.sound_of_mem_findings {floor : Severity} {f : Finding ctx.tree}
    (h : f ∈ Engine.findings rules ctx floor) :
    f.hit.Sound rules ctx ∧
      ∃ r, rules.rule? f.hit.rule = some r ∧ f.diagnostic = Finding.diagnose ctx r f.hit := by
  refine ⟨sound_of_mem_findMatches f.hit ?_, exists_rule_of_mem_collectFindings h⟩
  have hconfirmed := hit_mem_of_mem_collectFindings h
  exact Array.mem_toList_iff.1 (mem_of_mem_confirmMatches f.hit (Array.mem_toList_iff.1 hconfirmed))

/-- A reported diagnostic is a finding, but for its fix. -/
theorem Engine.exists_finding_of_mem_runRules {options : AnalyzeOptions} {d : Diagnostic}
    (hd : d ∈ (runRules rules options ctx).diagnostics) :
    ∃ f ∈ Engine.findings rules ctx options.minSeverity, f.diagnostic.bare = d.bare := by
  have hbare : d.bare ∈ (runRules rules options ctx).diagnostics.map (·.bare) :=
    List.mem_map_of_mem hd
  rw [runRules_bare] at hbare
  exact List.mem_map.1 hbare

/-- As many diagnostics are reported as there are findings; sorting them and looking at their fixes
loses none. -/
theorem Engine.length_diagnostics_runRules (rules : RuleSet) (options : AnalyzeOptions)
    (ctx : FileContext) :
    (runRules rules options ctx).diagnostics.length =
      ((Finding.distinctFrom [] (confirmMatches rules ctx
        (findMatches rules ctx).found.toList).confirmed.toList).filterMap
          (Finding.ofMatch? rules ctx options.minSeverity)).length := by
  have hlength := (map_rule_runRules_perm rules options ctx).length_eq
  rwa [List.length_map, List.length_map] at hlength

end Phases

/-! ## Reports -/

/-- The diagnostic points at a node and says where that is. -/
structure Diagnostic.PointsAt {t : SyntaxTree} (path : String) (d : Diagnostic) (n : Node t) :
    Prop where
  span : d.span = n.span
  location : d.location = {
    file := path
    line := ((LineIndex.ofText t.source).position t.source d.span.start).line
    column := ((LineIndex.ofText t.source).position t.source d.span.start).column
    offset := d.span.start
    length := d.span.stop - d.span.start }

/-- A diagnostic of the rules points at a node, and one of the rules made it. -/
theorem Engine.runRules_pointsAt (rules : RuleSet) (options : AnalyzeOptions) (path : String)
    (tree : SyntaxTree) (oracle : Option TypeOracle) {d : Diagnostic}
    (hd : d ∈ (runRules rules options (.make path tree oracle)).diagnostics) :
    (∃ n : Node tree, d.PointsAt path n) ∧ ∃ r ∈ rules.rules, d.rule = r.name ∧ d.code = r.code := by
  obtain ⟨f, hf, hbare⟩ := exists_finding_of_mem_runRules hd
  obtain ⟨⟨r, n, captures, hr, -, hhit⟩, r', hr', hdiag⟩ := sound_of_mem_findings hf
  -- the report and the finding differ in what became of the fix, not in where they point
  have hsame : d.bare = (Finding.diagnose (.make path tree oracle) r' f.hit).bare := by
    rw [← hbare, hdiag]
  have hspan : d.span = f.hit.span := congrArg Diagnostic.span hsame
  have hlocation := congrArg Diagnostic.location hsame
  obtain ⟨k, hk⟩ := Matching.exists_node_hit_span r f.hit.rule n captures
  rw [← hhit] at hk
  refine ⟨⟨k, hspan.trans hk, ?_⟩, r', List.mem_of_getElem? hr', ?_, ?_⟩
  · rw [hspan]
    exact hlocation
  · exact congrArg Diagnostic.rule hsame
  · exact congrArg Diagnostic.code hsame

/-- **Every diagnostic points into its file.** A file with diagnostics has a tree; each diagnostic has
the span of one of its nodes, which lies within the text and between characters, its location is that
of the span, and its name and code are those of a rule that was run.

Underneath, a pattern that passes from nothing has bound every name once, and under each name stands a
node of the tree, with the span of that very node. -/
theorem diagnostics_point_into_tree (engine : Engine) (rules : RuleSet) (options : AnalyzeOptions)
    (path source : String) :
    (∀ d ∈ (engine.run rules options path source).diagnostics,
      ∃ tree, engine.parse path source = .ok tree ∧
        (∃ n : Node tree, d.PointsAt path n) ∧
        (d.span.start ≤ d.span.stop ∧ Tree.Fits tree.source d.span) ∧
        ∃ r ∈ rules.rules, d.rule = r.name ∧ d.code = r.code) ∧
    ∀ (tree : SyntaxTree) (p : Pattern) (n : Node tree) (c : Captures tree), p.match? n = some c →
      c.names.Nodup ∧
      ∀ name value, (name, value) ∈ c.entries →
        ∃ k : Node tree, value = .node k ∧ tree.node? k.id = some k ∧
          c.node? name = some k ∧ c.span? name = some k.span := by
  refine ⟨fun d hd => ?_, fun tree p n c hc => ?_⟩
  · unfold Engine.run at hd
    split at hd
    next => cases hd
    next tree htree =>
      simp only at hd
      split at hd
      next => cases hd
      next =>
        obtain ⟨⟨n, hn⟩, hrule⟩ := Engine.runRules_pointsAt _ _ _ _ _ hd
        refine ⟨tree, htree, ⟨n, hn⟩, ?_, hrule⟩
        rw [hn.span]
        exact ⟨n.span_start_le_stop, n.span_fits⟩
  · have htidy := Pattern.tidy_of_match? hc
    refine ⟨htidy.distinct, fun name value hmem => ?_⟩
    obtain ⟨k, rfl⟩ := htidy.nodes _ hmem
    obtain ⟨hnode, hspan⟩ := htidy.node?_of_mem hmem
    exact ⟨k, rfl, SyntaxTree.node?_id k, hnode, hspan⟩

/-- Three rules report the one word of a text, and a pattern binds it. -/
theorem diagnostics_point_into_tree_quarrel :
    ((wordEngine quarrel).run (wordRules quarrel) {} "a.ts" "ab").diagnostics.length = 3 ∧
    (∀ d ∈ ((wordEngine quarrel).run (wordRules quarrel) {} "a.ts" "ab").diagnostics,
      (∃ n : Node wordTree, d.PointsAt "a.ts" n) ∧
        ∃ r ∈ quarrel, d.rule = r.name ∧ d.code = r.code) ∧
    ∃ c, (Pattern.capture "word" (.kind "word")).match? (⟨1, by decide⟩ : Node wordTree) = some c ∧
      c.names = ["word"] ∧ c.names.Nodup := by
  obtain ⟨hpoints, hbinds⟩ :=
    diagnostics_point_into_tree (wordEngine quarrel) (wordRules quarrel) {} "a.ts" "ab"
  have hparse : (wordEngine quarrel).parse "a.ts" "ab" = .ok wordTree := rfl
  have hmatch : (Pattern.capture "word" (.kind "word")).match? (⟨1, by decide⟩ : Node wordTree) =
    some (Captures.empty.bindNode "word" ⟨1, by decide⟩) := rfl
  refine ⟨?_, fun d hd => ?_, _, hmatch, rfl, (hbinds _ _ _ _ hmatch).1⟩
  · exact Engine.length_diagnostics_runRules (wordRules quarrel) {} (.make "a.ts" wordTree none)
  · obtain ⟨tree, htree, hnode, -, hrule⟩ := hpoints d hd
    rw [hparse] at htree
    cases htree
    exact ⟨hnode, hrule⟩

end TypeLint
