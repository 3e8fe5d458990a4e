import TypeLint.Proofs.Analysis.LifeCycle

/-!
# No hit is lost unseen

Confirming goes through the hits and drops most of them on one of several ways. What becomes of a hit
can be told from the hits before it, without the state of the loop: if its rule broke down on one of
them it is skipped, and otherwise it is judged, or its rule breaks down on it. `fates` lists the hits
with what becomes of them.

The state of the loop tallies the fates so far (`Tallies`). Taking one more hit enters it under its
fate (`take_eq_enter`), which keeps the tally (`Tallies.enter`), and so does the whole loop
(`tallies_foldl`). The counts of the fates are then a matter of lists, and `hits_accounted_for` puts
them together: each hit is confirmed, counted under one of two headings, or lost with its rule, and a
rule that breaks down is reported once.
-/

namespace TypeLint

/-- What becomes of a hit: there is a verdict on it, the confirm function of its rule breaks down on it,
or it is passed over because that happened before. -/
inductive Fate where
  | judged (verdict : Verdict)
  | broke (fault : Fault)
  | skipped
  deriving DecidableEq, Repr

namespace Fate

/-- The rule broke down on the hit. -/
def isBreak : Fate → Bool
  | .broke _ => true
  | _ => false

/-- The hit is neither confirmed nor counted. -/
def isLost : Fate → Bool
  | .judged _ => false
  | _ => true

end Fate

namespace Confirmation

variable (rules : RuleSet) (ctx : FileContext)

/-- How a hit is judged by its rule, if there is such a rule. -/
def ruling (m : Match ctx.tree) : Option (Except Fault Verdict) :=
  (rules.rule? m.rule).map fun rule => judge rules ctx rule m

/-- The hit is judged by a breakdown. -/
def breaks (m : Match ctx.tree) : Bool :=
  match ruling rules ctx m with
  | some (.error _) => true
  | _ => false

/-- The rule at this position breaks down on one of the hits. -/
def brokenBy (hits : List (Match ctx.tree)) (i : Nat) : Bool :=
  hits.any fun m => m.rule == i && breaks rules ctx m

/-- What becomes of a hit that comes after others. -/
def fateAfter (earlier : List (Match ctx.tree)) (m : Match ctx.tree) : Fate :=
  if brokenBy rules ctx earlier m.rule then .skipped
  else
    match ruling rules ctx m with
    | some (.ok verdict) => .judged verdict
    | some (.error fault) => .broke fault
    | none => .skipped

/-- The hits in order, each with what becomes of it. -/
def fates (hits : List (Match ctx.tree)) : List (Match ctx.tree × Fate) :=
  hits.mapIdx fun k m => (m, fateAfter rules ctx (hits.take k) m)

/-- What is reported of a hit: the breakdown of its rule, if it happens there. -/
def failure? (e : Match ctx.tree × Fate) : Option RuleFailure :=
  match rules.rule? e.1.rule, e.2 with
  | some rule, .broke fault => some ⟨rule.name, ctx.path, .confirming, fault.message⟩
  | _, _ => none

/-! ## One hit after another -/

section Steps

variable {rules : RuleSet} {ctx : FileContext} {hits : List (Match ctx.tree)} {m : Match ctx.tree}

/-- Later hits do not change what becomes of earlier ones. -/
theorem fates_concat (hits : List (Match ctx.tree)) (m : Match ctx.tree) :
    fates rules ctx (hits ++ [m]) = fates rules ctx hits ++ [(m, fateAfter rules ctx hits m)] := by
  unfold fates
  rw [List.mapIdx_concat, List.take_left]
  congr 1
  refine List.mapIdx_eq_mapIdx_iff.2 ?_
  intro k hk
  rw [List.take_append_of_le_length (Nat.le_of_lt hk)]

/-- After a hit a rule is broken if it was before, or if it broke down on the hit. -/
theorem brokenBy_concat (hits : List (Match ctx.tree)) (m : Match ctx.tree) (i : Nat) :
    brokenBy rules ctx (hits ++ [m]) i =
      (i == m.rule && (fateAfter rules ctx hits m).isBreak || brokenBy rules ctx hits i) := by
  have hconcat : brokenBy rules ctx (hits ++ [m]) i =
      (brokenBy rules ctx hits i || (m.rule == i && breaks rules ctx m)) := by
    simp [brokenBy]
  rw [hconcat, Bool.or_comm]
  by_cases hi : m.rule = i
  · subst hi
    unfold fateAfter
    by_cases hbroken : brokenBy rules ctx hits m.rule = true
    · rw [hbroken, Bool.or_true, Bool.or_true]
    · rw [if_neg hbroken]
      unfold breaks
      cases ruling rules ctx m with
      | none => simp [Fate.isBreak]
      | some ruled => cases ruled <;> simp [Fate.isBreak]
  · rw [beq_false_of_ne hi, beq_false_of_ne (Ne.symm hi), Bool.false_and, Bool.false_and]

/-- The state with one more hit, entered under its fate. -/
def enter (rules : RuleSet) (ctx : FileContext) (acc : Confirmation ctx.tree) (m : Match ctx.tree)
    (fate : Fate) : Confirmation ctx.tree where
  confirmed := if fate == .judged .confirmed then acc.confirmed.push m else acc.confirmed
  suppressed := acc.suppressed + if fate == .judged .suppressed then 1 else 0
  unconfirmed := acc.unconfirmed + if fate == .judged .unconfirmed then 1 else 0
  failures := acc.failures ++ (failure? rules ctx (m, fate)).toArray
  failed := if fate.isBreak then m.rule :: acc.failed else acc.failed

/-- What is skipped leaves no trace. -/
theorem enter_skipped (acc : Confirmation ctx.tree) (m : Match ctx.tree) :
    enter rules ctx acc m .skipped = acc := by
  unfold enter failure?
  cases rules.rule? m.rule <;> simp [Fate.isBreak]

/-- Taking a hit enters it under its fate, if the rules marked as failed are the broken ones. -/
theorem take_eq_enter {acc : Confirmation ctx.tree}
    (hfailed : acc.failed.contains m.rule = brokenBy rules ctx hits m.rule) :
    take rules ctx acc m = enter rules ctx acc m (fateAfter rules ctx hits m) := by
  unfold take fateAfter ruling
  rw [hfailed]
  cases hrule : rules.rule? m.rule with
  | none =>
    simp only [Option.map_none, ite_self]
    rw [enter_skipped]
  | some rule =>
    simp only [Option.map_some]
    by_cases hbroken : brokenBy rules ctx hits m.rule = true
    · rw [if_pos hbroken, if_pos hbroken, enter_skipped]
    · rw [if_neg hbroken, if_neg hbroken]
      cases judge rules ctx rule m with
      | ok verdict => cases verdict <;> simp [enter, failure?, hrule, Fate.isBreak]
      | error fault => simp [enter, failure?, hrule, Fate.isBreak]

end Steps

/-! ## The tally -/

/-- The state holds what became of the hits so far. -/
structure Tallies (hits : List (Match ctx.tree)) (acc : Confirmation ctx.tree) : Prop where
  confirmed : acc.confirmed.toList =
    ((fates rules ctx hits).filter (·.2 == .judged .confirmed)).map (·.1)
  suppressed : acc.suppressed = (fates rules ctx hits).countP (·.2 == .judged .suppressed)
  unconfirmed : acc.unconfirmed = (fates rules ctx hits).countP (·.2 == .judged .unconfirmed)
  failures : acc.failures.toList = (fates rules ctx hits).filterMap (failure? rules ctx)
  failed : ∀ i, acc.failed.contains i = brokenBy rules ctx hits i

section Run

variable {rules : RuleSet} {ctx : FileContext} {hits : List (Match ctx.tree)}
  {acc : Confirmation ctx.tree}

theorem tallies_nil : Tallies rules ctx [] {} where
  confirmed := rfl
  suppressed := rfl
  unconfirmed := rfl
  failures := rfl
  failed _ := rfl

/-- Entering a hit under its fate keeps the tally. -/
theorem Tallies.enter (h : Tallies rules ctx hits acc) (m : Match ctx.tree) :
    Tallies rules ctx (hits ++ [m])
      (enter rules ctx acc m (fateAfter rules ctx hits m)) := by
  have hfates : fates rules ctx (hits ++ [m]) =
      fates rules ctx hits ++ [(m, fateAfter rules ctx hits m)] := fates_concat hits m
  generalize hfate : fateAfter rules ctx hits m = fate at hfates ⊢
  refine ⟨?_, ?_, ?_, ?_, fun i => ?_⟩
  · rw [hfates, List.filter_append, List.map_append, ← h.confirmed]
    by_cases hfate : fate = .judged .confirmed <;> simp [Confirmation.enter, hfate]
  · rw [hfates, List.countP_append, List.countP_singleton, ← h.suppressed]
    rfl
  · rw [hfates, List.countP_append, List.countP_singleton, ← h.unconfirmed]
    rfl
  · rw [hfates, List.filterMap_append, ← h.failures]
    cases hfailure : failure? rules ctx (m, fate) <;> simp [Confirmation.enter, hfailure]
  · rw [brokenBy_concat, hfate, ← h.failed]
    show List.contains (if fate.isBreak then m.rule :: acc.failed else acc.failed) i = _
    cases fate.isBreak with
    | false => simp
    | true => rw [if_pos rfl, List.contains_cons, Bool.and_true]

/-- Taking hit after hit keeps the tally. -/
theorem tallies_foldl :
    ∀ (rest hits : List (Match ctx.tree)) (acc : Confirmation ctx.tree),
      Tallies rules ctx hits acc →
      Tallies rules ctx (hits ++ rest) (rest.foldl (take rules ctx) acc) := by
  intro rest
  induction rest with
  | nil =>
    intro hits acc h
    rw [List.append_nil]
    exact h
  | cons m rest ih =>
    intro hits acc h
    have hstep := h.enter m
    rw [← take_eq_enter (h.failed m.rule)] at hstep
    rw [List.foldl_cons, List.append_cons]
    exact ih _ _ hstep

end Run

/-! ## When a rule is broken -/

/-- The confirm function of the hit's rule is asked about the hit and breaks down: no directive excuses
the hit, and there is someone to ask about types if the rule needs them. -/
def BreaksOn (m : Match ctx.tree) (fault : Fault) : Prop :=
  ∃ rule, rules.rule? m.rule = some rule ∧
    (ctx.allowed m.span.start rule.name rules).isAllowed = false ∧
    (rule.requiresTypeInfo = true → ctx.hasTypeInfo = true) ∧
    ∃ confirm, rule.confirm = some confirm ∧ confirm ctx m = .error fault

/-- The rule at position `i` breaks down on one of the first `n` hits. -/
def BrokenWithin (hits : List (Match ctx.tree)) (n i : Nat) : Prop :=
  ∃ j e fault, j < n ∧ hits[j]? = some e ∧ e.rule = i ∧ BreaksOn rules ctx e fault

section Broken

variable {rules : RuleSet} {ctx : FileContext} {hits : List (Match ctx.tree)} {m : Match ctx.tree}

theorem judge_eq_error_iff {rule : Rule} {fault : Fault} :
    judge rules ctx rule m = .error fault ↔
      (ctx.allowed m.span.start rule.name rules).isAllowed = false ∧
      (rule.requiresTypeInfo = true → ctx.hasTypeInfo = true) ∧
      ∃ confirm, rule.confirm = some confirm ∧ confirm ctx m = .error fault := by
  unfold judge
  by_cases hallowed : (ctx.allowed m.span.start rule.name rules).isAllowed = true
  · rw [if_pos hallowed]
    refine ⟨fun herror => (by cases herror), ?_⟩
    rintro ⟨hnot, -⟩
    rw [hallowed] at hnot
    cases hnot
  · rw [if_neg hallowed]
    by_cases htypes : (rule.requiresTypeInfo && !ctx.hasTypeInfo) = true
    · rw [if_pos htypes]
      refine ⟨fun herror => (by cases herror), ?_⟩
      rintro ⟨-, hasked, -⟩
      rw [Bool.and_eq_true, Bool.not_eq_true'] at htypes
      rw [hasked htypes.1] at htypes
      cases htypes.2
    · rw [if_neg htypes]
      have hasked : rule.requiresTypeInfo = true → ctx.hasTypeInfo = true := by
        simpa using htypes
      cases rule.confirm with
      | none =>
        refine ⟨fun herror => (by cases herror), ?_⟩
        rintro ⟨-, -, _, hsame, -⟩
        cases hsame
      | some confirm =>
        constructor
        · intro herror
          exact ⟨by simpa using hallowed, hasked, confirm, rfl, herror⟩
        · rintro ⟨-, -, _, hsame, herror⟩
          cases hsame
          exact herror

theorem ruling_eq_error_iff {fault : Fault} :
    ruling rules ctx m = some (.error fault) ↔ BreaksOn rules ctx m fault := by
  unfold ruling BreaksOn
  rw [Option.map_eq_some_iff]
  simp only [judge_eq_error_iff]

theorem breaks_iff : breaks rules ctx m = true ↔ ∃ fault, BreaksOn rules ctx m fault := by
  simp only [← ruling_eq_error_iff]
  unfold breaks
  cases ruling rules ctx m with
  | none => simp
  | some ruled => cases ruled <;> simp

theorem brokenBy_iff {i : Nat} :
    brokenBy rules ctx hits i = true ↔
      ∃ m ∈ hits, m.rule = i ∧ ∃ fault, BreaksOn rules ctx m fault := by
  simp only [brokenBy, List.any_eq_true, Bool.and_eq_true, beq_iff_eq, breaks_iff]

theorem brokenBy_take_iff {n i : Nat} :
    brokenBy rules ctx (hits.take n) i = true ↔ BrokenWithin rules ctx hits n i := by
  rw [brokenBy_iff]
  constructor
  · rintro ⟨e, he, hrule, fault, hbreaks⟩
    obtain ⟨j, hj⟩ := List.mem_iff_getElem?.1 he
    rw [List.getElem?_take] at hj
    split at hj
    next hlt => exact ⟨j, e, fault, hlt, hj, hrule, hbreaks⟩
    next => cases hj
  · rintro ⟨j, e, fault, hlt, hj, hrule, hbreaks⟩
    refine ⟨e, List.mem_iff_getElem?.2 ⟨j, ?_⟩, hrule, fault, hbreaks⟩
    rw [List.getElem?_take, if_pos hlt, hj]

/-- A rule that breaks down was not broken before. -/
theorem brokenBy_of_isBreak (h : (fateAfter rules ctx hits m).isBreak = true) :
    brokenBy rules ctx hits m.rule = false := by
  unfold fateAfter at h
  by_cases hbroken : brokenBy rules ctx hits m.rule = true
  · rw [if_pos hbroken] at h
    cases h
  · simpa using hbroken

/-- A rule breaks down once if it is broken in the end, and else not at all. -/
theorem countP_isBreak (i : Nat) (hits : List (Match ctx.tree)) :
    (fates rules ctx hits).countP (fun e => e.1.rule == i && e.2.isBreak) =
      if brokenBy rules ctx hits i then 1 else 0 := by
  induction hits using List.reverseRecOn with
  | nil => rfl
  | append_singleton hits m ih =>
    rw [fates_concat, List.countP_append, ih, List.countP_singleton, brokenBy_concat]
    by_cases hbreak : (fateAfter rules ctx hits m).isBreak = true
    · by_cases hi : i = m.rule
      · subst hi
        simp [hbreak, brokenBy_of_isBreak hbreak]
      · simp [hi, Ne.symm hi]
    · simp [hbreak]

end Broken

/-! ## Reading the fates -/

section Reading

variable {rules : RuleSet} {ctx : FileContext} {hits : List (Match ctx.tree)} {m : Match ctx.tree}
  {k : Nat}

theorem getElem?_fates (hk : hits[k]? = some m) :
    (fates rules ctx hits)[k]? = some (m, fateAfter rules ctx (hits.take k) m) := by
  rw [fates, List.getElem?_mapIdx, hk, Option.map_some]

theorem map_fst_fates (hits : List (Match ctx.tree)) : (fates rules ctx hits).map (·.1) = hits := by
  refine List.ext_getElem? fun k => ?_
  rw [List.getElem?_map]
  cases hk : hits[k]? with
  | none => simpa [fates] using hk
  | some m => rw [getElem?_fates hk, Option.map_some]

/-- With the hit at `k` its rule is broken if it was broken before or breaks down there. -/
theorem brokenWithin_succ_iff (hk : hits[k]? = some m) :
    BrokenWithin rules ctx hits (k + 1) m.rule ↔
      (fateAfter rules ctx (hits.take k) m).isBreak = true ∨
        brokenBy rules ctx (hits.take k) m.rule = true := by
  rw [← brokenBy_take_iff, List.take_add_one, hk, Option.toList_some, brokenBy_concat]
  simp

/-- A hit is lost exactly when its rule breaks down on it or on an earlier one. -/
theorem isLost_iff (hrule : (rules.rule? m.rule).isSome = true) (hk : hits[k]? = some m) :
    (fateAfter rules ctx (hits.take k) m).isLost = true ↔
      BrokenWithin rules ctx hits (k + 1) m.rule := by
  rw [brokenWithin_succ_iff hk]
  obtain ⟨rule, hrule⟩ := Option.isSome_iff_exists.1 hrule
  unfold fateAfter ruling
  rw [hrule]
  by_cases hbroken : brokenBy rules ctx (hits.take k) m.rule = true
  · simp [hbroken, Fate.isLost]
  · rw [if_neg hbroken]
    cases hjudge : judge rules ctx rule m <;> simp [hjudge, hbroken, Fate.isLost, Fate.isBreak]

theorem fateAfter_eq_judged_iff {verdict : Verdict} (hk : hits[k]? = some m) :
    fateAfter rules ctx (hits.take k) m = .judged verdict ↔
      ¬ BrokenWithin rules ctx hits (k + 1) m.rule ∧
        ∃ rule, rules.rule? m.rule = some rule ∧ judge rules ctx rule m = .ok verdict := by
  rw [brokenWithin_succ_iff hk]
  unfold fateAfter ruling
  by_cases hbroken : brokenBy rules ctx (hits.take k) m.rule = true
  · simp [hbroken]
  · rw [if_neg hbroken]
    cases rules.rule? m.rule with
    | none => simp
    | some rule =>
      cases hjudge : judge rules ctx rule m <;> simp [hjudge, hbroken, Fate.isBreak]

theorem fateAfter_eq_broke_iff {fault : Fault} :
    fateAfter rules ctx (hits.take k) m = .broke fault ↔
      BreaksOn rules ctx m fault ∧ ¬ BrokenWithin rules ctx hits k m.rule := by
  rw [← ruling_eq_error_iff, ← brokenBy_take_iff]
  unfold fateAfter
  by_cases hbroken : brokenBy rules ctx (hits.take k) m.rule = true
  · simp [hbroken]
  · rw [if_neg hbroken]
    cases ruling rules ctx m with
    | none => simp
    | some ruled => cases ruled <;> simp [hbroken]

/-- Of the hits of known rules, those on which a rule breaks down are reported. -/
theorem isSome_failure? (hrule : (rules.rule? m.rule).isSome = true) (fate : Fate) :
    (failure? rules ctx (m, fate)).isSome = fate.isBreak := by
  obtain ⟨rule, hrule⟩ := Option.isSome_iff_exists.1 hrule
  unfold failure?
  cases fate <;> simp [hrule, Fate.isBreak]

/-- Every fate is of one of four kinds. -/
theorem length_eq_sum (l : List (Match ctx.tree × Fate)) :
    l.length = (l.filter (·.2 == .judged .confirmed)).length +
      l.countP (·.2 == .judged .suppressed) + l.countP (·.2 == .judged .unconfirmed) +
      l.countP (·.2.isLost) := by
  induction l with
  | nil => rfl
  | cons e l ih =>
    obtain ⟨m, fate⟩ := e
    cases fate with
    | judged verdict => cases verdict <;> simp [Fate.isLost, ih] <;> omega
    | broke fault => simp [Fate.isLost, ih]; omega
    | skipped => simp [Fate.isLost, ih]; omega

end Reading

/-- What confirming a list of hits comes to. -/
structure Accounts (hits : List (Match ctx.tree)) (outcome : Confirmation ctx.tree) : Prop where
  /-- Each hit has one fate. -/
  one_fate_each : (fates rules ctx hits).map (·.1) = hits
  /-- The lost hits are those of a rule from the hit on which it first breaks down. -/
  lost_iff : ∀ k m, hits[k]? = some m →
    ((fates rules ctx hits)[k]?.any (·.2.isLost) = true ↔
      BrokenWithin rules ctx hits (k + 1) m.rule)
  /-- Every other hit is judged. -/
  judged_iff : ∀ k m verdict, hits[k]? = some m →
    ((fates rules ctx hits)[k]? = some (m, .judged verdict) ↔
      ¬ BrokenWithin rules ctx hits (k + 1) m.rule ∧
        ∃ rule, rules.rule? m.rule = some rule ∧ judge rules ctx rule m = .ok verdict)
  confirmed : outcome.confirmed.toList =
    ((fates rules ctx hits).filter (·.2 == .judged .confirmed)).map (·.1)
  confirmed_sublist : outcome.confirmed.toList.Sublist hits
  suppressed : outcome.suppressed = (fates rules ctx hits).countP (·.2 == .judged .suppressed)
  unconfirmed : outcome.unconfirmed = (fates rules ctx hits).countP (·.2 == .judged .unconfirmed)
  total : hits.length = outcome.confirmed.size + outcome.suppressed + outcome.unconfirmed +
    (fates rules ctx hits).countP (·.2.isLost)
  /-- Breakdowns are reported in the order in which they happen. -/
  failures : outcome.failures.toList = (fates rules ctx hits).filterMap (failure? rules ctx)
  /-- No breakdown goes unreported. -/
  failures_size : outcome.failures.size = (fates rules ctx hits).countP (·.2.isBreak)
  /-- A breakdown happens on the first hit on which the confirm function of a rule breaks down. -/
  broke_iff : ∀ k m fault, hits[k]? = some m →
    ((fates rules ctx hits)[k]? = some (m, .broke fault) ↔
      BreaksOn rules ctx m fault ∧ ¬ BrokenWithin rules ctx hits k m.rule)
  /-- It happens once for each rule that breaks down, and not for others. -/
  broke_once : ∀ i,
    (BrokenWithin rules ctx hits hits.length i →
      (fates rules ctx hits).countP (fun e => e.1.rule == i && e.2.isBreak) = 1) ∧
    (¬ BrokenWithin rules ctx hits hits.length i →
      (fates rules ctx hits).countP (fun e => e.1.rule == i && e.2.isBreak) = 0)

/-- **Every hit is accounted for.** Each is confirmed, counted as suppressed, counted as unconfirmed or
lost; the lost ones are those of a rule from the hit on which its confirm function first breaks down.
So the numbers add up, the confirmed hits are in their order, and each rule that breaks down is
reported once, in the order of the breakdowns. -/
theorem hits_accounted_for (hits : List (Match ctx.tree))
    (hset : ∀ m ∈ hits, m.rule < rules.size) :
    Accounts rules ctx hits (confirmMatches rules ctx hits) := by
  have htally : Tallies rules ctx hits (confirmMatches rules ctx hits) :=
    tallies_foldl hits [] {} tallies_nil
  have hrule : ∀ m ∈ hits, (rules.rule? m.rule).isSome = true := by
    intro m hm
    exact Option.isSome_iff_exists.2 ⟨_, List.getElem?_eq_getElem (hset m hm)⟩
  have hsize : (confirmMatches rules ctx hits).confirmed.size =
      ((fates rules ctx hits).filter (·.2 == .judged .confirmed)).length := by
    rw [← Array.length_toList, htally.confirmed, List.length_map]
  have hsublist : (((fates rules ctx hits).filter (·.2 == .judged .confirmed)).map (·.1)).Sublist
      ((fates rules ctx hits).map (·.1)) := List.filter_sublist.map _
  refine ⟨map_fst_fates hits, ?_, ?_, htally.confirmed, ?_, htally.suppressed, htally.unconfirmed,
    ?_, htally.failures, ?_, ?_, ?_⟩
  · intro k m hk
    rw [getElem?_fates hk, Option.any_some]
    exact isLost_iff (hrule m (List.mem_of_getElem? hk)) hk
  · intro k m verdict hk
    rw [getElem?_fates hk, Option.some.injEq, Prod.mk.injEq, fateAfter_eq_judged_iff hk]
    exact and_iff_right rfl
  · rw [htally.confirmed]
    rwa [map_fst_fates] at hsublist
  · rw [hsize, htally.suppressed, htally.unconfirmed, ← length_eq_sum]
    exact List.length_mapIdx.symm
  · rw [← Array.length_toList, htally.failures, List.length_filterMap_eq_countP]
    refine List.countP_congr fun e he => ?_
    have hmem : e.1 ∈ (fates rules ctx hits).map (·.1) := List.mem_map_of_mem he
    rw [map_fst_fates] at hmem
    rw [isSome_failure? (hrule e.1 hmem)]
  · intro k m fault hk
    rw [getElem?_fates hk, Option.some.injEq, Prod.mk.injEq, fateAfter_eq_broke_iff]
    exact and_iff_right rfl
  · intro i
    rw [countP_isBreak, ← brokenBy_take_iff, List.take_length]
    exact ⟨fun h => if_pos h, fun h => if_neg h⟩

/-- A rule that breaks down on what starts behind the first byte, and one that suppresses. -/
def wavering : List Rule :=
  [{ wordRule "w1" "TY901" (.replace "swap" "node" "cd") with
      confirm := some fun _ m => if m.span.start = 0 then .ok .confirmed else .error ⟨"out of order"⟩ },
    { wordRule "w2" "TY902" (.replace "swap back" "node" "ba") with
      confirm := some fun _ _ => .ok .suppressed }]

/-- Hits of both rules, the first rule breaking down on the third hit. -/
def waveringHits : List (Match wordTree) :=
  [⟨0, "w1", wordNode, ⟨0, 1⟩, .empty⟩, ⟨1, "w2", wordNode, ⟨0, 2⟩, .empty⟩,
    ⟨0, "w1", wordNode, ⟨1, 2⟩, .empty⟩, ⟨0, "w1", wordNode, ⟨0, 2⟩, .empty⟩]

theorem hits_accounted_for_wavering :
    (∀ m ∈ waveringHits, m.rule < (wordRules wavering).size) ∧
    (fates (wordRules wavering) (.make "a.ts" wordTree none) waveringHits).map (·.2) =
      [.judged .confirmed, .judged .suppressed, .broke ⟨"out of order"⟩, .skipped] ∧
    Accounts (wordRules wavering) (.make "a.ts" wordTree none) waveringHits
      (confirmMatches (wordRules wavering) (.make "a.ts" wordTree none) waveringHits) := by
  have hset : ∀ m ∈ waveringHits, m.rule < (wordRules wavering).size := by decide
  exact ⟨hset, rfl, hits_accounted_for _ _ _ hset⟩

end Confirmation

end TypeLint
