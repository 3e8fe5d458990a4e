import TypeLint.Proofs.Rule.History

/-!
# Selecting rules as a test

A selection looks its identifiers up as positions and keeps positions. When all of them are known this
is a test on the rules themselves: `filter_eq`. What the test says of a rule depends on which identifiers
stand for it (`chooses_congr`), and in an unambiguous set the other rules have no say in that. So it does
not matter to a selection which others are there, and leaving rules out commutes with it
(`filter_leaving`).

What can go wrong is an identifier whose rule has been left out. The selection is then refused.
-/

namespace TypeLint.RuleSet

/-- The filter keeps the rule, as far as its identifiers are known. -/
def chooses (set : RuleSet) (f : RuleFilter) (r : Rule) : Bool :=
  (f.allow.isEmpty || f.allow.any fun id => set.currentName? id == some r.name) &&
    !f.deny.any fun id => set.currentName? id == some r.name

variable {set : RuleSet} {f : RuleFilter} {q : Rule → Bool} {i : Nat} {r : Rule}

/-! ## The test -/

theorem WellFormed.chooses_iff (h : WellFormed set) (hr : set.rule? i = some r) :
    set.chooses f r = true ↔ set.Wanted f i := by
  unfold chooses Wanted
  simp only [Bool.and_eq_true, Bool.or_eq_true, List.isEmpty_iff, List.any_eq_true, beq_iff_eq,
    h.currentName?_eq_name_iff hr, Bool.not_eq_true', List.any_eq_false, ne_eq]

/-- **A selection with known identifiers keeps the rules that pass its test.** -/
theorem WellFormed.filter_eq (h : WellFormed set)
    (hknown : ∀ id ∈ f.allow ++ f.deny, set.indexOf? id ≠ none) :
    set.filter f = .ok { set with rules := set.rules.filter (set.chooses f) } := by
  rw [List.forall_mem_append] at hknown
  obtain ⟨allow, hallow, hallowed⟩ := lookup_of_known hknown.1
  obtain ⟨deny, hdeny, hdenied⟩ := lookup_of_known hknown.2
  have hkept : (set.rules.zipIdx.filter fun e =>
      (allow.isEmpty || allow.contains e.2) && !deny.contains e.2) =
      set.rules.zipIdx.filter fun e => set.chooses f e.1 := by
    refine List.filter_congr fun e he => ?_
    rw [Bool.eq_iff_iff, wanted_iff hallowed hdenied,
      h.chooses_iff (List.mem_zipIdx_iff_getElem?.1 he)]
  rw [filter, hallow, hdeny]
  show Except.ok _ = _
  rw [hkept]
  congr 2
  nth_rewrite 2 [← List.zipIdx_map_fst 0 set.rules]
  rw [List.filter_map]
  rfl

/-- The test on a rule depends on which identifiers stand for it. -/
theorem chooses_congr {set' : RuleSet}
    (h : ∀ id, (set'.currentName? id == some r.name) = (set.currentName? id == some r.name)) :
    set'.chooses f r = set.chooses f r := by
  unfold chooses
  simp only [h]

/-! ## Asking by name -/

theorem currentName?_name (h : WellFormed set) (hu : Unambiguous set) (hr : r ∈ set.rules) :
    set.currentName? r.name = some r.name :=
  (currentName?_eq_some_iff h hu hr r.name).2 (Or.inl (answersTo_iff.2 (Or.inl rfl)))

/-- An identifier stands for positions of rules only. -/
theorem exists_rule?_of_indexOf? {id : String} (h : set.indexOf? id = some i) :
    ∃ r, set.rule? i = some r := by
  rcases Option.or_eq_some_iff.1 h with hfind | ⟨-, hfind⟩
  · obtain ⟨r, hr, -⟩ := exists_answersTo_of_find? hfind
    exact ⟨r, hr⟩
  · obtain ⟨new, -, hfind⟩ := Option.bind_eq_some_iff.1 hfind
    obtain ⟨r, hr, -⟩ := exists_answersTo_of_find? hfind
    exact ⟨r, hr⟩

/-- An identifier is known exactly when a rule of the set is behind it. -/
theorem WellFormed.indexOf?_ne_none_iff (h : WellFormed set) {id : String} :
    set.indexOf? id ≠ none ↔ ∃ r ∈ set.rules, set.currentName? id = some r.name := by
  constructor
  · intro hne
    obtain ⟨i, hi⟩ := Option.ne_none_iff_exists'.1 hne
    obtain ⟨r, hr⟩ := exists_rule?_of_indexOf? hi
    exact ⟨r, List.mem_of_getElem? hr, (h.currentName?_eq_name_iff hr).2 hi⟩
  · intro hname
    obtain ⟨r, hr, hname⟩ := hname
    obtain ⟨i, hi⟩ := List.getElem?_of_mem hr
    rw [(h.currentName?_eq_name_iff hi).1 hname]
    exact Option.some_ne_none i

/-- One rule has a given name. -/
theorem WellFormed.filter_name_eq (h : WellFormed set) (hr : r ∈ set.rules) :
    set.rules.filter (·.name == r.name) = [r] := by
  refine List.perm_singleton.1 ((List.perm_ext_iff_of_nodup
    ((h.nodup_names.of_map _).filter _) (List.nodup_singleton r)).2 fun s => ?_)
  rw [List.mem_filter, List.mem_singleton, beq_iff_eq]
  constructor
  · intro hs
    exact List.inj_on_of_nodup_map h.nodup_names hs.1 hr hs.2
  · intro hs
    rw [hs]
    exact ⟨hr, rfl⟩

/-- A rule is selected by its name. -/
theorem filter_allow_name (h : WellFormed set) (hu : Unambiguous set) (hr : r ∈ set.rules) :
    set.filter { allow := [r.name] } = .ok { set with rules := [r] } := by
  have hknown : ∀ id ∈ [r.name] ++ [], set.indexOf? id ≠ none := by
    intro id hid
    rw [List.append_nil, List.mem_singleton] at hid
    rw [hid]
    exact h.indexOf?_ne_none_iff.2 ⟨r, hr, currentName?_name h hu hr⟩
  rw [h.filter_eq hknown, ← h.filter_name_eq hr]
  congr 2
  refine List.filter_congr fun s _ => ?_
  rw [chooses, List.any_cons, currentName?_name h hu hr, Bool.beq_comm]
  simp

/-- Rules that fail a test are left out by denying them by name. -/
theorem filter_deny_names (h : WellFormed set) (hu : Unambiguous set) (q : Rule → Bool) :
    set.filter { deny := (set.rules.filter (!q ·)).map (·.name) } =
      .ok { set with rules := set.rules.filter q } := by
  have hdenied : ∀ s ∈ set.rules.filter (!q ·), s ∈ set.rules := fun s hs => (List.mem_filter.1 hs).1
  have hknown : ∀ id ∈ [] ++ (set.rules.filter (!q ·)).map (·.name), set.indexOf? id ≠ none := by
    intro id hid
    obtain ⟨s, hs, rfl⟩ := List.mem_map.1 hid
    exact h.indexOf?_ne_none_iff.2 ⟨s, hdenied s hs, currentName?_name h hu (hdenied s hs)⟩
  rw [h.filter_eq hknown]
  congr 2
  refine List.filter_congr fun r hr => ?_
  -- a rule is among the denied exactly when its name is
  have hdeny : (((set.rules.filter (!q ·)).map (·.name)).any fun id =>
      set.currentName? id == some r.name) = !q r := by
    rw [Bool.eq_iff_iff, List.any_map, List.any_eq_true]
    constructor
    · intro hany
      obtain ⟨s, hs, hname⟩ := hany
      rw [Function.comp_apply, currentName?_name h hu (hdenied s hs), beq_iff_eq,
        Option.some.injEq] at hname
      rw [← List.inj_on_of_nodup_map h.nodup_names (hdenied s hs) hr hname]
      exact (List.mem_filter.1 hs).2
    · intro hq
      refine ⟨r, List.mem_filter.2 ⟨hr, hq⟩, ?_⟩
      rw [Function.comp_apply, currentName?_name h hu hr, beq_self_eq_true]
  rw [chooses, hdeny, Bool.not_not]
  rfl

/-! ## Selecting after rules were left out -/

theorem labels_sublist_leaving (set : RuleSet) (q : Rule → Bool) :
    { set with rules := set.rules.filter q }.labels.Sublist set.labels :=
  List.filter_sublist.map _

/-- What a set answers to an identifier, as far as one of its rules goes, does not change when others
are left out. -/
theorem currentName?_leaving (h : WellFormed set) (hu : Unambiguous set) (hr : r ∈ set.rules)
    (hq : q r = true) (id : String) :
    { set with rules := set.rules.filter q }.currentName? id = some r.name ↔
      set.currentName? id = some r.name := by
  have hsub := set.labels_sublist_leaving q
  rw [currentName?_eq_some_iff h hu hr, currentName?_eq_some_iff (h.of_labels_sublist hsub rfl)
    (hu.of_labels_sublist hsub) (List.mem_filter.2 ⟨hr, hq⟩)]
  rfl

/-- **Leaving rules out commutes with a selection**, unless the selection names one of them. -/
theorem filter_leaving (h : WellFormed set) (hu : Unambiguous set)
    (hknown : ∀ id ∈ f.allow ++ f.deny,
      { set with rules := set.rules.filter q }.indexOf? id ≠ none) :
    ∃ chosen, set.filter f = .ok chosen ∧
      { set with rules := set.rules.filter q }.filter f =
        .ok { chosen with rules := chosen.rules.filter q } := by
  have hsub := set.labels_sublist_leaving q
  have hpart := h.of_labels_sublist hsub rfl
  have hwhole : ∀ id ∈ f.allow ++ f.deny, set.indexOf? id ≠ none := by
    intro id hid
    obtain ⟨r, hr, hname⟩ := hpart.indexOf?_ne_none_iff.1 (hknown id hid)
    obtain ⟨hmem, hq⟩ := List.mem_filter.1 hr
    exact h.indexOf?_ne_none_iff.2 ⟨r, hmem, (currentName?_leaving h hu hmem hq id).1 hname⟩
  refine ⟨_, h.filter_eq hwhole, ?_⟩
  rw [hpart.filter_eq hknown, List.filter_filter, List.filter_filter]
  congr 2
  refine List.filter_congr fun r hr => ?_
  cases hq : q r with
  | false => rw [Bool.and_false, Bool.false_and]
  | true =>
    rw [Bool.and_true, Bool.true_and]
    refine chooses_congr fun id => ?_
    rw [Bool.eq_iff_iff, beq_iff_eq, beq_iff_eq]
    exact currentName?_leaving h hu hr hq id

end TypeLint.RuleSet
