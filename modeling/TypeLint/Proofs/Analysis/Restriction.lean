import TypeLint.Engine.Basic
import TypeLint.Proofs.Rule.Identity
import TypeLint.Proofs.StableSort

/-!
# Leaving rules out

What a rule set finds in a file, less the hits and failures of some of its rules, is what the set
without those rules finds. Two runs are compared, phase by phase: `findMatches_mirrors`,
`confirmMatches_mirrors`, `collectFindings_moved` and `offer_moved`. In each the smaller run is the
larger one with the hits of the absent rules dropped and the others renumbered.

The numbers are the one thing about the others that a rule can see: a hit carries the position of its
rule, and the rule's own functions are given the hit. `Rule.numbered` is a rule that is told the
number its hits had, and the rules of the smaller set are taken in this form. For a rule that does
not look at the number it is the same rule (`Rule.IgnoresNumber`).
-/

namespace TypeLint

/-! ## The number of a hit -/

/-- The fixer that sees every hit under one number. -/
def Fixer.numbered (i : Nat) : Fixer → Fixer
  | .template description edits confidence => .template description edits confidence
  | .custom f => .custom fun ctx m => f ctx { m with rule := i }

/-- The rule whose functions see every hit under one number. -/
def Rule.numbered (i : Nat) (r : Rule) : Rule :=
  { r with
    confirm := r.confirm.map fun f ctx m => f ctx { m with rule := i }
    fixer := r.fixer.map (·.numbered i) }

/-- The functions of the rule do not look at the number of a hit. -/
def Rule.IgnoresNumber (r : Rule) : Prop := ∀ i, r.numbered i = r

/-- The hit under the number that its rule has in the smaller set, if the rule is there. -/
def Match.moved {t : SyntaxTree} (place : Nat → Option Nat) (m : Match t) : Option (Match t) :=
  (place m.rule).map fun k => { m with rule := k }

/-- The finding with its hit under the new number, if its rule is there. -/
def Finding.moved {t : SyntaxTree} (place : Nat → Option Nat) (f : Finding t) : Option (Finding t) :=
  (f.hit.moved place).map fun m => { f with hit := m }

theorem Match.moved_of_none {t : SyntaxTree} {place : Nat → Option Nat} {m : Match t}
    (hp : place m.rule = none) : m.moved place = none := by
  rw [moved, hp]
  rfl

theorem Match.moved_of_some {t : SyntaxTree} {place : Nat → Option Nat} {m : Match t} {k : Nat}
    (hp : place m.rule = some k) : m.moved place = some { m with rule := k } := by
  rw [moved, hp]
  rfl

theorem Match.edits_renumber {t : SyntaxTree} (m : Match t) (k : Nat) :
    ∀ templates : List EditTemplate, Match.edits { m with rule := k } templates = m.edits templates
  | [] => rfl
  | template :: rest => by
    rw [edits, edits, edits_renumber m k rest]
    rfl

/-- A fixer that is told the number of a hit answers as on the hit itself. -/
theorem Fixer.run_numbered (fixer : Fixer) (ctx : FileContext) (m : Match ctx.tree) (k : Nat) :
    (fixer.numbered m.rule).run ctx { m with rule := k } = fixer.run ctx m := by
  cases fixer with
  | template description edits confidence =>
    unfold run numbered
    simp only [Match.edits_renumber]
  | custom f => rfl

/-- `part` is `whole` without the rules that have no place in it. `kept` tells the names of those
that have one. -/
structure RuleSet.Restricts (whole part : RuleSet) (place : Nat → Option Nat)
    (kept : String → Bool) : Prop where
  wellFormed : whole.WellFormed
  unambiguous : whole.Unambiguous
  rules : part.rules.zipIdx = whole.rules.zipIdx.filterMap fun e =>
    (place e.2).map fun k => (e.1.numbered e.2, k)
  renames : part.renames = whole.renames
  inj : ∀ {i j k : Nat}, place i = some k → place j = some k → i = j
  kept : ∀ {i : Nat} {r : Rule}, whole.rule? i = some r → kept r.name = (place i).isSome

variable {whole part : RuleSet} {place : Nat → Option Nat} {kept : String → Bool}

namespace RuleSet.Restricts

theorem labels_eq (set : RuleSet) :
    set.labels = set.rules.zipIdx.map fun e => (e.1.name, e.1.code) := by
  rw [labels]
  nth_rewrite 1 [← List.zipIdx_map_fst 0 set.rules]
  rw [List.map_map]
  rfl

theorem labels_sublist (h : Restricts whole part place kept) :
    part.labels.Sublist whole.labels := by
  rw [labels_eq, labels_eq, h.rules]
  induction whole.rules.zipIdx with
  | nil => exact List.Sublist.refl _
  | cons e rest ih =>
    cases hp : place e.2 with
    | none =>
      rw [List.filterMap_cons_none (by rw [hp]; rfl)]
      exact ih.cons _
    | some k =>
      rw [List.filterMap_cons_some (by rw [hp]; rfl)]
      exact ih.cons_cons _

theorem kept_of_none (h : Restricts whole part place kept) {i : Nat} {r : Rule}
    (hr : whole.rule? i = some r) (hp : place i = none) : kept r.name = false := by
  rw [h.kept hr, hp]
  rfl

theorem kept_of_some (h : Restricts whole part place kept) {i k : Nat} {r : Rule}
    (hr : whole.rule? i = some r) (hp : place i = some k) : kept r.name = true := by
  rw [h.kept hr, hp]
  rfl

/-- A rule keeps its place: it is in the smaller set exactly when it is in the larger one. -/
theorem rule?_place (h : Restricts whole part place kept) {i k : Nat} (hp : place i = some k) :
    part.rule? k = (whole.rule? i).map (·.numbered i) := by
  have hmem : ∀ r', part.rule? k = some r' ↔ ∃ r, whole.rule? i = some r ∧ r' = r.numbered i := by
    intro r'
    unfold rule?
    rw [← List.mk_mem_zipIdx_iff_getElem?, h.rules, List.mem_filterMap]
    constructor
    · intro hr'
      obtain ⟨⟨r, j⟩, hmem, heq⟩ := hr'
      obtain ⟨k', hk', hpair⟩ := Option.map_eq_some_iff.1 heq
      cases hpair
      cases h.inj hk' hp
      exact ⟨r, List.mk_mem_zipIdx_iff_getElem?.1 hmem, rfl⟩
    · intro hr'
      obtain ⟨r, hr, rfl⟩ := hr'
      exact ⟨(r, i), List.mk_mem_zipIdx_iff_getElem?.2 hr, by rw [hp]; rfl⟩
  cases hr : whole.rule? i with
  | some r => exact (hmem _).2 ⟨r, hr, rfl⟩
  | none =>
    cases hpart : part.rule? k with
    | none => rfl
    | some r' =>
      obtain ⟨r, hr', -⟩ := (hmem r').1 hpart
      rw [hr] at hr'
      cases hr'

/-- A rule has failed in the smaller run when it has failed in the larger one. -/
theorem contains_place (h : Restricts whole part place kept) {i k : Nat} (hp : place i = some k)
    (failed : List Nat) : (failed.filterMap place).contains k = failed.contains i := by
  rw [Bool.eq_iff_iff, List.contains_iff_mem, List.contains_iff_mem, List.mem_filterMap]
  constructor
  · intro hmem
    obtain ⟨j, hj, hjk⟩ := hmem
    rwa [← h.inj hjk hp]
  · intro hi
    exact ⟨i, hi, hp⟩

/-- A directive excuses a rule in the smaller set exactly when it does in the larger one. -/
theorem allowed_eq (h : Restricts whole part place kept) (ctx : FileContext) (offset : Nat)
    {i k : Nat} {r : Rule} (hr : whole.rule? i = some r) (hp : place i = some k) :
    ctx.allowed offset r.name part = ctx.allowed offset r.name whole := by
  have hwhole := currentName?_eq_some_iff h.wellFormed h.unambiguous (List.mem_of_getElem? hr)
  have hmem : r.numbered i ∈ part.rules := by
    have hk := h.rule?_place hp
    rw [hr] at hk
    exact List.mem_of_getElem? hk
  have hpart := currentName?_eq_some_iff
    (h.wellFormed.of_labels_sublist h.labels_sublist h.renames)
    (h.unambiguous.of_labels_sublist h.labels_sublist) hmem
  -- both lookups come down to the identifiers of this rule and the former names
  have hsame : ∀ id, (part.currentName? id == some r.name) = (whole.currentName? id == some r.name) := by
    intro id
    rw [Bool.eq_iff_iff, beq_iff_eq, beq_iff_eq, hwhole id]
    refine (hpart id).trans ?_
    unfold renamed?
    rw [h.renames]
    rfl
  unfold FileContext.allowed
  simp only [hsame]

end RuleSet.Restricts

/-! ## Finding hits -/

/-- The failures of the rules that are kept. -/
def keepFailures (kept : String → Bool) (failures : List RuleFailure) : List RuleFailure :=
  failures.filter fun f => kept f.rule

theorem keepFailures_append (l₁ l₂ : List RuleFailure) :
    keepFailures kept (l₁ ++ l₂) = keepFailures kept l₁ ++ keepFailures kept l₂ :=
  List.filter_append l₁ l₂

theorem keepFailures_push_of_false {failures : Array RuleFailure} {f : RuleFailure}
    (h : kept f.rule = false) :
    keepFailures kept (failures.push f).toList = keepFailures kept failures.toList := by
  rw [Array.toList_push, keepFailures, List.filter_append, List.filter_cons_of_neg (by simp [h]),
    List.filter_nil, List.append_nil]
  rfl

theorem keepFailures_push_of_true {failures : Array RuleFailure} {f : RuleFailure}
    (h : kept f.rule = true) :
    keepFailures kept (failures.push f).toList = keepFailures kept failures.toList ++ [f] := by
  rw [Array.toList_push, keepFailures, List.filter_append,
    List.filter_cons_of_pos (by exact h), List.filter_nil]
  rfl

theorem filterMap_push_of_none {α β : Type} {g : α → Option β} {as : Array α} {a : α}
    (h : g a = none) : (as.push a).toList.filterMap g = as.toList.filterMap g := by
  rw [Array.toList_push, List.filterMap_append, List.filterMap_cons_none h, List.filterMap_nil,
    List.append_nil]

theorem filterMap_push_of_some {α β : Type} {g : α → Option β} {as : Array α} {a : α} {b : β}
    (h : g a = some b) : (as.push a).toList.filterMap g = as.toList.filterMap g ++ [b] := by
  rw [Array.toList_push, List.filterMap_append, List.filterMap_cons_some h, List.filterMap_nil]

/-- One search is the other without the absent rules. -/
structure Matching.Mirrors {t : SyntaxTree} (place : Nat → Option Nat) (kept : String → Bool)
    (acc acc' : Matching t) : Prop where
  found : acc'.found.toList = acc.found.toList.filterMap (·.moved place)
  failures : acc'.failures.toList = keepFailures kept acc.failures.toList
  failed : acc'.failed = acc.failed.filterMap place

namespace Matching

open RuleSet (Restricts)

variable {ctx : FileContext} {acc acc' : Matching ctx.tree}

/-- Trying a rule that is absent from the smaller run. -/
theorem tryRule_absent (h : Restricts whole part place kept) (n : Node ctx.tree) {i : Nat} {r : Rule}
    (hr : whole.rule? i = some r) (hp : place i = none) (hm : Mirrors place kept acc acc') :
    Mirrors place kept (tryRule ctx n acc (r, i)) acc' := by
  unfold tryRule
  simp only
  split
  next => exact hm
  next =>
    split
    next => exact hm
    next captures hok =>
      refine ⟨?_, hm.failures, hm.failed⟩
      have hmoved : (hit r i n captures).moved place = none := Match.moved_of_none hp
      rw [filterMap_push_of_none hmoved]
      exact hm.found
    next fault herr =>
      refine ⟨hm.found, ?_, ?_⟩
      · rw [keepFailures_push_of_false (h.kept_of_none hr hp)]
        exact hm.failures
      · rw [List.filterMap_cons_none hp]
        exact hm.failed

/-- Trying a rule that has a place in the smaller run. -/
theorem tryRule_present (h : Restricts whole part place kept) (n : Node ctx.tree) {i k : Nat} {r : Rule}
    (hr : whole.rule? i = some r) (hp : place i = some k) (hm : Mirrors place kept acc acc') :
    Mirrors place kept (tryRule ctx n acc (r, i)) (tryRule ctx n acc' (r.numbered i, k)) := by
  -- the rule has failed in both runs or in neither, and its matcher is told no number
  have hfailed : acc'.failed.contains k = acc.failed.contains i := by
    rw [hm.failed, h.contains_place hp]
  have heval : (r.numbered i).evaluate ctx n = r.evaluate ctx n := rfl
  unfold tryRule
  simp only [hfailed, heval]
  split
  next => exact hm
  next =>
    split
    next => exact hm
    next captures hok =>
      refine ⟨?_, hm.failures, hm.failed⟩
      have hmoved : (hit r i n captures).moved place = some (hit (r.numbered i) k n captures) :=
        Match.moved_of_some hp
      rw [filterMap_push_of_some hmoved, Array.toList_push, hm.found]
    next fault herr =>
      refine ⟨hm.found, ?_, ?_⟩
      · rw [keepFailures_push_of_true (h.kept_of_some hr hp), Array.toList_push, hm.failures]
        rfl
      · rw [List.filterMap_cons_some hp, hm.failed]

/-- One node in both runs: each rule of the larger one is absent from the smaller or has its place
there. -/
theorem tryNode_mirrors (h : Restricts whole part place kept) (n : Node ctx.tree)
    (hm : Mirrors place kept acc acc') :
    Mirrors place kept (tryNode whole.rules.zipIdx ctx acc n)
      (tryNode part.rules.zipIdx ctx acc' n) := by
  unfold tryNode
  rw [h.rules, List.foldl_filterMap]
  refine List.foldl_rel (r := Mirrors place kept) hm fun e he acc acc' hm => ?_
  have hr : whole.rule? e.2 = some e.1 := List.mem_zipIdx_iff_getElem?.1 he
  cases hp : place e.2 with
  | none => exact tryRule_absent h n hr hp hm
  | some k => exact tryRule_present h n hr hp hm

end Matching

/-- The hits of the smaller set are those of the larger one without the absent rules. -/
theorem findMatches_mirrors (h : whole.Restricts part place kept) (ctx : FileContext) :
    Matching.Mirrors place kept (findMatches whole ctx) (findMatches part ctx) := by
  unfold findMatches
  refine List.foldl_rel (r := Matching.Mirrors place kept) ⟨rfl, rfl, rfl⟩ fun n _ acc acc' hm => ?_
  exact Matching.tryNode_mirrors h n hm

/-! ## Confirming hits -/

/-- One confirmation is the other without the absent rules; the counts are not compared. -/
structure Confirmation.Mirrors {t : SyntaxTree} (place : Nat → Option Nat) (kept : String → Bool)
    (acc acc' : Confirmation t) : Prop where
  confirmed : acc'.confirmed.toList = acc.confirmed.toList.filterMap (·.moved place)
  failures : acc'.failures.toList = keepFailures kept acc.failures.toList
  failed : acc'.failed = acc.failed.filterMap place

namespace Confirmation

open RuleSet (Restricts)

variable {ctx : FileContext} {acc acc' : Confirmation ctx.tree}

/-- A hit is judged alike in both runs. -/
theorem judge_moved (h : Restricts whole part place kept) {m : Match ctx.tree} {r : Rule} {k : Nat}
    (hr : whole.rule? m.rule = some r) (hp : place m.rule = some k) :
    judge part ctx (r.numbered m.rule) { m with rule := k } = judge whole ctx r m := by
  have hallowed : ctx.allowed m.span.start (r.numbered m.rule).name part
      = ctx.allowed m.span.start r.name whole := h.allowed_eq (r := r) ctx m.span.start hr hp
  have hconfirm : (r.numbered m.rule).confirm
      = r.confirm.map fun f ctx m' => f ctx { m' with rule := m.rule } := rfl
  unfold judge
  simp only [hallowed, hconfirm]
  cases r.confirm <;> rfl

theorem take_absent (h : Restricts whole part place kept) {m : Match ctx.tree}
    (hp : place m.rule = none) (hm : Mirrors place kept acc acc') :
    Mirrors place kept (take whole ctx acc m) acc' := by
  unfold take
  split
  next => exact hm
  next r hr =>
    split
    next => exact hm
    next =>
      split
      next =>
        refine ⟨?_, hm.failures, hm.failed⟩
        rw [filterMap_push_of_none (Match.moved_of_none hp)]
        exact hm.confirmed
      next => exact ⟨hm.confirmed, hm.failures, hm.failed⟩
      next => exact ⟨hm.confirmed, hm.failures, hm.failed⟩
      next fault herr =>
        refine ⟨hm.confirmed, ?_, ?_⟩
        · rw [keepFailures_push_of_false (h.kept_of_none hr hp)]
          exact hm.failures
        · rw [List.filterMap_cons_none hp]
          exact hm.failed

theorem take_present (h : Restricts whole part place kept) {m : Match ctx.tree} {k : Nat}
    (hp : place m.rule = some k) (hm : Mirrors place kept acc acc') :
    Mirrors place kept (take whole ctx acc m) (take part ctx acc' { m with rule := k }) := by
  have hrule : part.rule? k = (whole.rule? m.rule).map (·.numbered m.rule) := h.rule?_place hp
  have hfailed : acc'.failed.contains k = acc.failed.contains m.rule := by
    rw [hm.failed, h.contains_place hp]
  cases hr : whole.rule? m.rule with
  | none =>
    rw [hr] at hrule
    unfold take
    simp only [hr, hrule, Option.map_none]
    exact hm
  | some r =>
    rw [hr] at hrule
    unfold take
    simp only [hr, hrule, Option.map_some, hfailed, judge_moved h hr hp]
    split
    next => exact hm
    next =>
      split
      next =>
        refine ⟨?_, hm.failures, hm.failed⟩
        rw [filterMap_push_of_some (Match.moved_of_some hp), Array.toList_push, hm.confirmed]
      next => exact ⟨hm.confirmed, hm.failures, hm.failed⟩
      next => exact ⟨hm.confirmed, hm.failures, hm.failed⟩
      next fault herr =>
        refine ⟨hm.confirmed, ?_, ?_⟩
        · rw [keepFailures_push_of_true (h.kept_of_some hr hp), Array.toList_push, hm.failures]
          rfl
        · rw [List.filterMap_cons_some hp, hm.failed]

end Confirmation

/-- What the smaller set confirms of its hits is what the larger one confirms of them. -/
theorem confirmMatches_mirrors (h : whole.Restricts part place kept) (ctx : FileContext)
    (hits : List (Match ctx.tree)) :
    Confirmation.Mirrors place kept (confirmMatches whole ctx hits)
      (confirmMatches part ctx (hits.filterMap (·.moved place))) := by
  unfold confirmMatches
  rw [List.foldl_filterMap]
  refine List.foldl_rel (r := Confirmation.Mirrors place kept) ⟨rfl, rfl, rfl⟩
    fun m _ acc acc' hm => ?_
  unfold Match.moved
  cases hp : place m.rule with
  | none => exact Confirmation.take_absent h hp hm
  | some k => exact Confirmation.take_present h hp hm

/-! ## Collecting findings -/

namespace Finding

theorem before_iff {t : SyntaxTree} {a b : Finding t} :
    before a b = true ↔ a.hit.span.start < b.hit.span.start ∨
      a.hit.span.start = b.hit.span.start ∧ a.hit.ruleName ≤ b.hit.ruleName := by
  simp only [before, Bool.or_eq_true, decide_eq_true_eq, Bool.and_eq_true, beq_iff_eq,
    Bool.not_eq_true', decide_eq_false_iff_not, String.not_lt]

theorem before_trans {t : SyntaxTree} (a b c : Finding t) (hab : before a b = true)
    (hbc : before b c = true) : before a c = true := by
  rw [before_iff] at hab hbc ⊢
  rcases hab with hab | ⟨hab, hname⟩
  · rcases hbc with hbc | ⟨hbc, -⟩
    · exact Or.inl (by omega)
    · exact Or.inl (by omega)
  · rcases hbc with hbc | ⟨hbc, hname'⟩
    · exact Or.inl (by omega)
    · exact Or.inr ⟨by omega, String.le_trans hname hname'⟩

theorem before_total {t : SyntaxTree} (a b : Finding t) : (before a b || before b a) = true := by
  rw [Bool.or_eq_true, before_iff, before_iff]
  rcases Nat.lt_trichotomy a.hit.span.start b.hit.span.start with hlt | heq | hlt
  · exact Or.inl (Or.inl hlt)
  · rcases String.le_total a.hit.ruleName b.hit.ruleName with hle | hle
    · exact Or.inl (Or.inr ⟨heq, hle⟩)
    · exact Or.inr (Or.inr ⟨heq.symm, hle⟩)
  · exact Or.inr (Or.inl hlt)

/-- The order of findings does not see the numbers of their rules. -/
theorem before_moved {t : SyntaxTree} (a b a' b' : Finding t) (ha : a.moved place = some a')
    (hb : b.moved place = some b') : before a' b' = before a b := by
  unfold moved Match.moved at ha hb
  simp only [Option.map_map, Option.map_eq_some_iff] at ha hb
  obtain ⟨k, -, rfl⟩ := ha
  obtain ⟨l, -, rfl⟩ := hb
  rfl

/-- The rule and span of a hit under the new number. -/
def movedKey (place : Nat → Option Nat) (key : Nat × Span) : Option (Nat × Span) :=
  (place key.1).map (·, key.2)

open RuleSet (Restricts)

theorem contains_movedKey (h : Restricts whole part place kept) {i k : Nat}
    (hp : place i = some k) (span : Span) (seen : List (Nat × Span)) :
    (seen.filterMap (movedKey place)).contains (k, span) = seen.contains (i, span) := by
  rw [Bool.eq_iff_iff, List.contains_iff_mem, List.contains_iff_mem, List.mem_filterMap]
  constructor
  · intro hmem
    obtain ⟨⟨j, span'⟩, hj, hjk⟩ := hmem
    obtain ⟨k', hk', hpair⟩ := Option.map_eq_some_iff.1 hjk
    cases hpair
    rwa [← h.inj hk' hp]
  · intro hi
    exact ⟨(i, span), hi, by rw [movedKey, hp]; rfl⟩

/-- Repeated hits are dropped rule by rule. -/
theorem distinctFrom_moved {t : SyntaxTree} (h : Restricts whole part place kept) :
    ∀ (hits : List (Match t)) (seen : List (Nat × Span)),
      (distinctFrom seen hits).filterMap (·.moved place) =
        distinctFrom (seen.filterMap (movedKey place)) (hits.filterMap (·.moved place))
  | [], _ => rfl
  | m :: rest, seen => by
    cases hp : place m.rule with
    | none =>
      have hmoved : m.moved place = none := Match.moved_of_none hp
      rw [distinctFrom, List.filterMap_cons_none hmoved]
      split
      next => exact distinctFrom_moved h rest seen
      next =>
        -- the hit is remembered, but nothing in the smaller run asks for it
        have hkey : movedKey place (m.rule, m.span) = none := by
          rw [movedKey, hp]
          rfl
        rw [List.filterMap_cons_none hmoved, distinctFrom_moved h rest,
          List.filterMap_cons_none hkey]
    | some k =>
      have hmoved : m.moved place = some { m with rule := k } := Match.moved_of_some hp
      rw [distinctFrom, List.filterMap_cons_some hmoved, distinctFrom, contains_movedKey h hp]
      split
      next => exact distinctFrom_moved h rest seen
      next =>
        have hkey : movedKey place (m.rule, m.span) = some (k, m.span) := by
          rw [movedKey, hp]
          rfl
        rw [List.filterMap_cons_some hmoved, distinctFrom_moved h rest,
          List.filterMap_cons_some hkey]

/-- A hit has the same finding in both runs. -/
theorem ofMatch?_moved (h : Restricts whole part place kept) (ctx : FileContext) (floor : Severity)
    (m : Match ctx.tree) :
    (ofMatch? whole ctx floor m).bind (·.moved place) =
      (m.moved place).bind (ofMatch? part ctx floor) := by
  unfold ofMatch?
  cases hp : place m.rule with
  | none =>
    have hmoved : m.moved place = none := Match.moved_of_none hp
    rw [hmoved, Option.bind_none]
    split
    next => rfl
    next r hr =>
      split
      next =>
        show (m.moved place).map _ = none
        rw [hmoved]
        rfl
      next => rfl
  | some k =>
    have hmoved : m.moved place = some { m with rule := k } := Match.moved_of_some hp
    rw [hmoved, Option.bind_some, h.rule?_place hp]
    cases hr : whole.rule? m.rule with
    | none => rfl
    | some r =>
      have hsev : (r.numbered m.rule).severity = r.severity := rfl
      simp only [Option.map_some, hsev]
      split
      next =>
        show (m.moved place).map _ = _
        rw [hmoved]
        rfl
      next => rfl

end Finding

/-- The findings of the smaller set are those of the larger one without the absent rules. -/
theorem collectFindings_moved (h : whole.Restricts part place kept) (ctx : FileContext)
    (floor : Severity) (hits : List (Match ctx.tree)) :
    (collectFindings whole ctx floor hits).filterMap (·.moved place) =
      collectFindings part ctx floor (hits.filterMap (·.moved place)) := by
  unfold collectFindings
  rw [filterMap_mergeSort Finding.before_trans Finding.before_total Finding.before_trans
    Finding.before_total Finding.before_moved, List.filterMap_filterMap]
  have hdistinct := Finding.distinctFrom_moved h hits []
  rw [List.filterMap_nil] at hdistinct
  rw [← hdistinct, List.filterMap_filterMap]
  simp only [Finding.ofMatch?_moved h]

/-! ## Offering findings to their fixers -/

namespace Proposal

open RuleSet (Restricts)

variable {ctx : FileContext}

/-- What a rule's fixer answers does not depend on which of the two runs asks. -/
theorem ask_numbered (r : Rule) (failed : Bool) (m : Match ctx.tree) (k : Nat) :
    ask ctx (r.numbered m.rule) failed { m with rule := k } = ask ctx r failed m := by
  have hfixer : (r.numbered m.rule).fixer = r.fixer.map (·.numbered m.rule) := rfl
  unfold ask
  rw [hfixer]
  cases r.fixer with
  | none => rfl
  | some fixer => simp only [Option.map_some, Fixer.run_numbered]

/-- The rules that have failed once a finding was offered. -/
def failedAfter (failed : List Nat) (i : Nat) : Option Fault → List Nat
  | none => failed
  | some _ => i :: failed

/-- The failure to report for a finding that was offered. -/
def failureOf (rule : Rule) (ctx : FileContext) : Option Fault → List RuleFailure
  | none => []
  | some fault => [⟨rule.name, ctx.path, .fixing, fault.message⟩]

theorem offer_cons_of_none {rules : RuleSet} {fingerprint : UInt64} {failed : List Nat}
    {f : Finding ctx.tree} {rest : List (Finding ctx.tree)} (hr : rules.rule? f.hit.rule = none) :
    offer rules ctx fingerprint failed (f :: rest) =
      (f :: (offer rules ctx fingerprint failed rest).1,
        (offer rules ctx fingerprint failed rest).2) := by
  rw [offer, hr]

/-- One finding is offered and the rest after it. -/
theorem offer_cons_of_some {rules : RuleSet} {fingerprint : UInt64} {failed : List Nat}
    {f : Finding ctx.tree} {rest : List (Finding ctx.tree)} {rule : Rule}
    (hr : rules.rule? f.hit.rule = some rule) :
    offer rules ctx fingerprint failed (f :: rest) =
      let answer := ask ctx rule (failed.contains f.hit.rule) f.hit
      let after := offer rules ctx fingerprint (failedAfter failed f.hit.rule answer.2) rest
      ({ f with diagnostic := record ctx.source fingerprint f.diagnostic answer.1 } :: after.1,
        failureOf rule ctx answer.2 ++ after.2) := by
  rw [offer, hr]
  simp only
  split
  next hnone =>
    rw [hnone]
    rfl
  next fault hfault =>
    rw [hfault]
    rfl

theorem failedAfter_of_none {i : Nat} (hp : place i = none) (failed : List Nat)
    (fault : Option Fault) : (failedAfter failed i fault).filterMap place = failed.filterMap place := by
  cases fault with
  | none => rfl
  | some fault => exact List.filterMap_cons_none hp

theorem failedAfter_of_some {i k : Nat} (hp : place i = some k) (failed : List Nat)
    (fault : Option Fault) :
    (failedAfter failed i fault).filterMap place = failedAfter (failed.filterMap place) k fault := by
  cases fault with
  | none => rfl
  | some fault => exact List.filterMap_cons_some hp

theorem keepFailures_failureOf (rule : Rule) (fault : Option Fault) :
    keepFailures kept (failureOf rule ctx fault) =
      if kept rule.name then failureOf rule ctx fault else [] := by
  cases fault with
  | none => simp [failureOf, keepFailures]
  | some fault => cases h : kept rule.name <;> simp [failureOf, keepFailures, h]

/-- The findings of both runs come back from the fixers alike, and so do the failures. -/
theorem offer_moved (h : Restricts whole part place kept) (fingerprint : UInt64) :
    ∀ (findings : List (Finding ctx.tree)) (failed : List Nat),
      (offer part ctx fingerprint (failed.filterMap place) (findings.filterMap (·.moved place))).1 =
        (offer whole ctx fingerprint failed findings).1.filterMap (·.moved place) ∧
      (offer part ctx fingerprint (failed.filterMap place) (findings.filterMap (·.moved place))).2 =
        keepFailures kept (offer whole ctx fingerprint failed findings).2
  | [], _ => ⟨rfl, rfl⟩
  | f :: rest, failed => by
    cases hp : place f.hit.rule with
    | none =>
      have hmoved : ∀ d, Finding.moved place { f with diagnostic := d } = none := by
        intro d
        show (f.hit.moved place).map _ = none
        rw [Match.moved_of_none hp]
        rfl
      rw [List.filterMap_cons_none (hmoved f.diagnostic)]
      cases hr : whole.rule? f.hit.rule with
      | none =>
        rw [offer_cons_of_none hr, List.filterMap_cons_none (hmoved f.diagnostic)]
        exact offer_moved h fingerprint rest failed
      | some r =>
        have ih := offer_moved h fingerprint rest
          (failedAfter failed f.hit.rule (ask ctx r (failed.contains f.hit.rule) f.hit).2)
        -- whatever the fixer did, neither its fault nor its failure reaches the smaller run
        rw [failedAfter_of_none hp] at ih
        rw [offer_cons_of_some hr]
        simp only
        rw [List.filterMap_cons_none (hmoved _), keepFailures_append, keepFailures_failureOf,
          h.kept_of_none hr hp]
        exact ih
    | some k =>
      have hmoved : ∀ d, Finding.moved place { f with diagnostic := d } =
          some { diagnostic := d, hit := { f.hit with rule := k } } := by
        intro d
        show (f.hit.moved place).map _ = _
        rw [Match.moved_of_some hp]
        rfl
      have hrule := h.rule?_place hp
      rw [List.filterMap_cons_some (hmoved f.diagnostic)]
      cases hr : whole.rule? f.hit.rule with
      | none =>
        rw [hr] at hrule
        obtain ⟨hfindings, hfailures⟩ := offer_moved h fingerprint rest failed
        rw [offer_cons_of_none hr, offer_cons_of_none hrule,
          List.filterMap_cons_some (hmoved f.diagnostic)]
        exact ⟨congrArg _ hfindings, hfailures⟩
      | some r =>
        rw [hr] at hrule
        have ih := offer_moved h fingerprint rest
          (failedAfter failed f.hit.rule (ask ctx r (failed.contains f.hit.rule) f.hit).2)
        rw [failedAfter_of_some hp] at ih
        rw [offer_cons_of_some hr, offer_cons_of_some hrule]
        simp only [h.contains_place hp, ask_numbered]
        rw [List.filterMap_cons_some (hmoved _), keepFailures_append, keepFailures_failureOf,
          h.kept_of_some hr hp, if_pos rfl]
        exact ⟨congrArg _ ih.1, congrArg _ ih.2⟩

end Proposal

end TypeLint
