import TypeLint.Proofs.Analysis.LifeCycle
import TypeLint.Proofs.Analysis.Restriction

/-!
# Findings are ordered, distinct and complete

Of the hits with one rule and one span only the first becomes a finding, if its rule is not below the
floor, and the findings are then sorted by where they start and by the name of their rule.
`findings_ordered_distinct_complete` says what that comes to.

`distinctFrom` carries the keys it has seen. What it keeps can be said without them: the first hit of
each key (`mem_distinctFrom_iff`), in the order in which the keys first occur (`pairwise_distinctFrom`).
The sort is stable, so among findings that compare equal this order is still there, and the findings
are in strictly ascending order of three things: start, name, and first occurrence.
-/

namespace TypeLint

variable {t : SyntaxTree}

/-- What tells findings apart: the rule and the span. -/
def Match.key (m : Match t) : Nat × Span := (m.rule, m.span)

/-- The position of the first hit with this rule and span. -/
def firstAt (hits : List (Match t)) (key : Nat × Span) : Nat := hits.findIdx (·.key == key)

theorem firstAt_cons_self (m : Match t) (hits : List (Match t)) : firstAt (m :: hits) m.key = 0 := by
  simp [firstAt, List.findIdx_cons]

theorem firstAt_cons_of_ne {m : Match t} {key : Nat × Span} (h : m.key ≠ key)
    (hits : List (Match t)) : firstAt (m :: hits) key = firstAt hits key + 1 := by
  rw [firstAt, List.findIdx_cons, beq_false_of_ne h, cond_false]
  rfl

/-! ## The first of each key -/

namespace Finding

theorem distinctFrom_cons_of_mem {m : Match t} {seen : List (Nat × Span)} (h : m.key ∈ seen)
    (hits : List (Match t)) : distinctFrom seen (m :: hits) = distinctFrom seen hits := by
  rw [distinctFrom]
  exact if_pos (List.contains_iff_mem.2 h)

theorem distinctFrom_cons_of_not_mem {m : Match t} {seen : List (Nat × Span)} (h : m.key ∉ seen)
    (hits : List (Match t)) :
    distinctFrom seen (m :: hits) = m :: distinctFrom (m.key :: seen) hits := by
  rw [distinctFrom]
  exact if_neg fun hmem => h (List.contains_iff_mem.1 hmem)

/-- A hit is kept when its key was not seen before and it is the first hit of its key. -/
theorem mem_distinctFrom_iff {m : Match t} (hits : List (Match t)) :
    ∀ seen : List (Nat × Span), m ∈ distinctFrom seen hits ↔
      m.key ∉ seen ∧ hits.find? (·.key == m.key) = some m := by
  induction hits with
  | nil =>
    intro seen
    simp [distinctFrom]
  | cons e hits ih =>
    intro seen
    by_cases hseen : e.key ∈ seen
    · rw [distinctFrom_cons_of_mem hseen, ih]
      refine and_congr_right fun hm => ?_
      have hne : e.key ≠ m.key := fun heq => hm (heq ▸ hseen)
      rw [List.find?_cons_of_neg (by simpa using hne)]
    · rw [distinctFrom_cons_of_not_mem hseen, List.mem_cons, ih, List.mem_cons, not_or]
      by_cases hkey : e.key = m.key
      · rw [List.find?_cons_of_pos (by simpa using hkey), Option.some.injEq, ← hkey]
        simp [hseen, eq_comm]
      · rw [List.find?_cons_of_neg (by simpa using hkey)]
        have hne : m ≠ e := fun heq => hkey (heq ▸ rfl)
        simp [hne, Ne.symm hkey]

/-- What is kept is in the order in which the keys first occur. -/
theorem pairwise_distinctFrom (hits : List (Match t)) :
    ∀ seen : List (Nat × Span),
      (distinctFrom seen hits).Pairwise fun m e => firstAt hits m.key < firstAt hits e.key := by
  induction hits with
  | nil => exact fun _ => List.Pairwise.nil
  | cons e hits ih =>
    intro seen
    -- with one more hit in front, the keys that are not its own first occur one position later
    have hlater : ∀ seen', e.key ∈ seen' → (distinctFrom seen' hits).Pairwise fun m m' =>
        firstAt (e :: hits) m.key < firstAt (e :: hits) m'.key := by
      intro seen' he
      refine (ih seen').imp_of_mem ?_
      intro m m' hm hm' hlt
      have hne : ∀ {k}, k ∈ distinctFrom seen' hits → e.key ≠ k.key := fun hk heq =>
        ((mem_distinctFrom_iff hits seen').1 hk).1 (heq ▸ he)
      rw [firstAt_cons_of_ne (hne hm), firstAt_cons_of_ne (hne hm')]
      omega
    by_cases hseen : e.key ∈ seen
    · rw [distinctFrom_cons_of_mem hseen]
      exact hlater seen hseen
    · rw [distinctFrom_cons_of_not_mem hseen]
      refine List.pairwise_cons.2 ⟨?_, hlater _ List.mem_cons_self⟩
      intro m hm
      have hne : e.key ≠ m.key := fun heq =>
        ((mem_distinctFrom_iff hits _).1 hm).1 (heq ▸ List.mem_cons_self)
      rw [firstAt_cons_self, firstAt_cons_of_ne hne]
      omega

end Finding

/-! ## Findings -/

section Collecting

variable {rules : RuleSet} {ctx : FileContext} {floor : Severity} {hits : List (Match ctx.tree)}

/-- The findings are those of the first hits of their keys whose rules are not below the floor. -/
theorem mem_collectFindings_iff {f : Finding ctx.tree} :
    f ∈ collectFindings rules ctx floor hits ↔
      hits.find? (·.key == f.hit.key) = some f.hit ∧
      ∃ rule, rules.rule? f.hit.rule = some rule ∧ rule.severity.atLeast floor = true ∧
        f.diagnostic = Finding.diagnose ctx rule f.hit := by
  rw [collectFindings, List.mem_mergeSort, List.mem_filterMap]
  constructor
  · rintro ⟨m, hm, hf⟩
    obtain ⟨rule, hrule, hfloor, rfl⟩ := ofMatch?_eq_some_iff.1 hf
    exact ⟨((Finding.mem_distinctFrom_iff hits []).1 hm).2, rule, hrule, hfloor, rfl⟩
  · rintro ⟨hfirst, rule, hrule, hfloor, hdiag⟩
    refine ⟨f.hit, (Finding.mem_distinctFrom_iff hits []).2 ⟨List.not_mem_nil, hfirst⟩, ?_⟩
    refine ofMatch?_eq_some_iff.2 ⟨rule, hrule, hfloor, ?_⟩
    rw [← hdiag]

/-- Sorted by start and rule name; findings that compare equal are in the order in which their keys
first occur. -/
theorem pairwise_collectFindings :
    (collectFindings rules ctx floor hits).Pairwise fun f g => f.before g = true ∧
      (g.before f = true → firstAt hits f.hit.key < firstAt hits g.hit.key) := by
  refine pairwise_mergeSort_ties Finding.before_trans Finding.before_total _ ?_
  refine List.pairwise_filterMap.2 ((Finding.pairwise_distinctFrom hits []).imp ?_)
  intro m e hlt f hf g hg
  obtain ⟨_, -, -, rfl⟩ := ofMatch?_eq_some_iff.1 hf
  obtain ⟨_, -, -, rfl⟩ := ofMatch?_eq_some_iff.1 hg
  exact hlt

/-- No two findings have the same rule and span. -/
theorem nodup_key_collectFindings :
    ((collectFindings rules ctx floor hits).map (·.hit.key)).Nodup := by
  rw [List.Nodup, List.pairwise_map]
  refine pairwise_collectFindings.imp_of_mem ?_
  intro f g hf hg h hkey
  -- both would be of the first hit of their key, and so compare equal
  have hhit : f.hit = g.hit := by
    have hfirst := (mem_collectFindings_iff.1 hf).1
    rw [hkey, (mem_collectFindings_iff.1 hg).1] at hfirst
    exact (Option.some.inj hfirst).symm
  have hsame : f.before g = g.before f := by
    unfold Finding.before
    rw [hhit]
  have hlt := h.2 (hsame ▸ h.1)
  rw [hkey] at hlt
  exact Nat.lt_irrefl _ hlt

/-- A rule and a span have a finding when they have a hit and the rule is not below the floor. -/
theorem mem_key_collectFindings_iff {i : Nat} {span : Span} :
    (i, span) ∈ (collectFindings rules ctx floor hits).map (·.hit.key) ↔
      (∃ m ∈ hits, m.rule = i ∧ m.span = span) ∧
        ∃ rule, rules.rule? i = some rule ∧ rule.severity.atLeast floor = true := by
  rw [List.mem_map]
  constructor
  · rintro ⟨f, hf, hkey⟩
    obtain ⟨hfirst, rule, hrule, hfloor, -⟩ := mem_collectFindings_iff.1 hf
    cases hkey
    exact ⟨⟨f.hit, List.mem_of_find?_eq_some hfirst, rfl, rfl⟩, rule, hrule, hfloor⟩
  · rintro ⟨⟨m, hm, rfl, rfl⟩, rule, hrule, hfloor⟩
    -- the first hit of the key is of the same rule, so it makes a finding
    have hsome : (hits.find? (·.key == m.key)).isSome = true :=
      List.find?_isSome.2 ⟨m, hm, beq_self_eq_true _⟩
    obtain ⟨e, he⟩ := Option.isSome_iff_exists.1 hsome
    have hkey : e.key = m.key := by simpa using List.find?_some he
    have hsame : e.rule = m.rule := congrArg Prod.fst hkey
    refine ⟨⟨Finding.diagnose ctx rule e, e⟩, mem_collectFindings_iff.2 ⟨?_, rule, ?_, hfloor, rfl⟩,
      hkey⟩
    · rw [hkey]
      exact he
    · rw [hsame]
      exact hrule

/-- The place of a finding in a report: where it starts, the name of its rule, and where its rule and
span first occur among the hits. -/
def Finding.place (hits : List (Match t)) (f : Finding t) : Nat × String × Nat :=
  (f.diagnostic.span.start, f.diagnostic.rule, firstAt hits f.hit.key)

/-- What a list of findings has to do with the hits that it was made from. -/
structure Collected (rules : RuleSet) (ctx : FileContext) (floor : Severity)
    (hits : List (Match ctx.tree)) (findings : List (Finding ctx.tree)) : Prop where
  /-- Ascending by start and rule name; ties are in the order of the hits. -/
  ordered : findings.Pairwise fun f g =>
    Prod.Lex (· < ·) (Prod.Lex (· < ·) (· < ·)) (f.place hits) (g.place hits)
  /-- No two findings have the same rule and span. -/
  distinct : (findings.map (·.hit.key)).Nodup
  /-- A rule and a span have a finding when they have a hit and the rule is not below the floor. -/
  complete : ∀ i span, (i, span) ∈ findings.map (·.hit.key) ↔
    (∃ m ∈ hits, m.rule = i ∧ m.span = span) ∧
      ∃ rule, rules.rule? i = some rule ∧ rule.severity.atLeast floor = true
  /-- A finding comes from the first hit of its rule and span. -/
  first : ∀ f ∈ findings, hits.find? (·.key == f.hit.key) = some f.hit
  /-- Every diagnostic is fresh and bears what identifies its rule. -/
  diagnosed : ∀ f ∈ findings, ∃ rule, rules.rule? f.hit.rule = some rule ∧
    f.diagnostic.state = .diagnosed ∧ f.diagnostic.code = rule.code ∧
    f.diagnostic.rule = rule.name ∧ f.diagnostic.severity = rule.severity ∧
    f.diagnostic.span = f.hit.span

/-- A finding shows the span and the rule name of its hit. -/
theorem place_of_mem_collectFindings
    (hnames : ∀ m ∈ hits, ∃ rule, rules.rule? m.rule = some rule ∧ m.ruleName = rule.name)
    {f : Finding ctx.tree} (hf : f ∈ collectFindings rules ctx floor hits) :
    f.place hits = (f.hit.span.start, f.hit.ruleName, firstAt hits f.hit.key) := by
  obtain ⟨hfirst, rule, hrule, -, hdiag⟩ := mem_collectFindings_iff.1 hf
  obtain ⟨rule', hrule', hname⟩ := hnames f.hit (List.mem_of_find?_eq_some hfirst)
  rw [hrule, Option.some.injEq] at hrule'
  rw [Finding.place, hdiag, hname, ← hrule']
  rfl

/-- Findings that are sorted, with ties in order, ascend by their places. -/
theorem Finding.lex_place {f g : Finding ctx.tree}
    (hf : f.place hits = (f.hit.span.start, f.hit.ruleName, firstAt hits f.hit.key))
    (hg : g.place hits = (g.hit.span.start, g.hit.ruleName, firstAt hits g.hit.key))
    (hbefore : f.before g = true)
    (hties : g.before f = true → firstAt hits f.hit.key < firstAt hits g.hit.key) :
    Prod.Lex (· < ·) (Prod.Lex (· < ·) (· < ·)) (f.place hits) (g.place hits) := by
  rw [hf, hg, Prod.lex_def, Prod.lex_def]
  rw [Finding.before_iff] at hbefore hties
  rcases hbefore with hlt | ⟨hstart, hle⟩
  · exact Or.inl hlt
  · refine Or.inr ⟨hstart, ?_⟩
    by_cases hname : f.hit.ruleName = g.hit.ruleName
    · exact Or.inr ⟨hname, hties (Or.inr ⟨hstart.symm, le_of_eq hname.symm⟩)⟩
    · exact Or.inl (lt_of_le_of_ne hle hname)

/-- **Findings are ordered, distinct and complete.** They ascend by start and rule name, ties in the
order of the hits; there is one for each rule and span that has a hit, if the rule is not below the
floor, and it comes from the first such hit; and its diagnostic is fresh and names the rule. -/
theorem findings_ordered_distinct_complete (rules : RuleSet) (ctx : FileContext) (floor : Severity)
    (hits : List (Match ctx.tree))
    (hnames : ∀ m ∈ hits, ∃ rule, rules.rule? m.rule = some rule ∧ m.ruleName = rule.name) :
    Collected rules ctx floor hits (collectFindings rules ctx floor hits) := by
  refine ⟨?_, nodup_key_collectFindings, fun i span => mem_key_collectFindings_iff, ?_, ?_⟩
  · refine pairwise_collectFindings.imp_of_mem ?_
    intro f g hf hg h
    exact Finding.lex_place (place_of_mem_collectFindings hnames hf)
      (place_of_mem_collectFindings hnames hg) h.1 h.2
  · intro f hf
    exact (mem_collectFindings_iff.1 hf).1
  · intro f hf
    obtain ⟨-, rule, hrule, -, hdiag⟩ := mem_collectFindings_iff.1 hf
    rw [hdiag]
    exact ⟨rule, hrule, rfl, rfl, rfl, rfl, rfl⟩

/-- A rule that hits the word and a part of it, one of them twice, after a rule of another name. -/
def repeatedHits : List (Match wordTree) :=
  [⟨1, "w2", wordNode, ⟨0, 2⟩, .empty⟩, ⟨0, "w1", wordNode, ⟨0, 2⟩, .empty⟩,
    ⟨0, "w1", wordNode, ⟨0, 1⟩, .empty⟩, ⟨0, "w1", wordTree.root, ⟨0, 2⟩, .empty⟩]

theorem findings_ordered_distinct_complete_repeated :
    (∀ m ∈ repeatedHits, ∃ rule, (wordRules quarrel).rule? m.rule = some rule ∧
      m.ruleName = rule.name) ∧
    (collectFindings (wordRules quarrel) (.make "a.ts" wordTree none) .suggestion
      repeatedHits).length = 3 ∧
    Collected (wordRules quarrel) (.make "a.ts" wordTree none) .suggestion repeatedHits
      (collectFindings (wordRules quarrel) (.make "a.ts" wordTree none) .suggestion repeatedHits) := by
  have hnames : ∀ m ∈ repeatedHits, ∃ rule, (wordRules quarrel).rule? m.rule = some rule ∧
      m.ruleName = rule.name := by
    intro m hm
    simp only [repeatedHits, List.mem_cons, List.not_mem_nil, or_false] at hm
    rcases hm with rfl | rfl | rfl | rfl <;> exact ⟨_, rfl, rfl⟩
  have hlength : (collectFindings (wordRules quarrel) (.make "a.ts" wordTree none) .suggestion
      repeatedHits).length = 3 := by
    unfold collectFindings
    rw [List.length_mergeSort]
    rfl
  exact ⟨hnames, hlength, findings_ordered_distinct_complete _ _ _ _ hnames⟩

end Collecting

end TypeLint
