import Mathlib.Data.Option.Basic
import TypeLint.Proofs.Rule.Lookup

/-!
# Rule sets over their history

A rule set starts as a list of rules that was accepted, and is then given versions, told of former
names and narrowed down, in any order. An operation that is refused leaves it as it was.

Every set on the way can be made (`Built.step` for one operation, `Built.run` for a history), so it is
well formed, and that keeps former names away from the rules there are. What a selection answers is
found by looking up all its identifiers: `lookup_of_firstUnknown` when one of them stands for no rule,
`lookup_of_known` when none does, and then the positions that are kept are known (`Selects`).
`history_keeps_rules_apart` puts it together for every history.
-/

namespace TypeLint.RuleSet

/-- What can be asked of a rule set. -/
inductive Operation where
  | version (version : String)
  | migrate (old new : String)
  | select (filter : RuleFilter)
  deriving DecidableEq, Repr

/-- The answer to an operation. -/
def answer (set : RuleSet) : Operation → Except RuleSetError RuleSet
  | .version version => .ok (set.withVersion version)
  | .migrate old new => set.withMigration old new
  | .select f => set.filter f

/-- The set after an operation, which is the old one if the operation is refused. -/
def step (set : RuleSet) (op : Operation) : RuleSet :=
  match set.answer op with
  | .ok set' => set'
  | .error _ => set

/-- The set after a history. -/
def run (set : RuleSet) (ops : List Operation) : RuleSet := ops.foldl step set

/-- The identifier is the first of these that stands for no rule. -/
def FirstUnknown (set : RuleSet) (ids : List String) (id : String) : Prop :=
  ∃ front back, ids = front ++ id :: back ∧ (∀ x ∈ front, set.indexOf? x ≠ none) ∧
    set.indexOf? id = none

/-- The filter asks for the rule at this position: it is allowed, or nothing is listed as allowed, and
it is not denied. -/
def Wanted (set : RuleSet) (f : RuleFilter) (i : Nat) : Prop :=
  (f.allow = [] ∨ ∃ id ∈ f.allow, set.indexOf? id = some i) ∧
    ∀ id ∈ f.deny, set.indexOf? id ≠ some i

/-- `set'` holds the rules that the filter asks for, in their order, and differs in nothing else. -/
structure Selects (set : RuleSet) (f : RuleFilter) (set' : RuleSet) : Prop where
  version : set'.version = set.version
  renames : set'.renames = set.renames
  rules : ∃ kept : List Nat, kept.Pairwise (· < ·) ∧
    (∀ i, i ∈ kept ↔ i < set.size ∧ set.Wanted f i) ∧ set'.rules.map some = kept.map set.rule?

variable {set set' : RuleSet}

/-! ## What a history keeps -/

theorem step_of_error {op : Operation} {e : RuleSetError} (h : set.answer op = .error e) :
    set.step op = set := by
  rw [step, h]

theorem Built.step (hb : Built set) (op : Operation) : Built (set.step op) := by
  unfold RuleSet.step
  split
  next set' h =>
    cases op with
    | version version =>
      cases h
      exact .withVersion version hb
    | migrate old new => exact .withMigration hb h
    | select f => exact .filter hb h
  next => exact hb

theorem Built.run (hb : Built set) (ops : List Operation) : Built (set.run ops) := by
  induction ops generalizing set with
  | nil => exact hb
  | cons op ops ih => exact ih (hb.step op)

/-- What a rule answers to is no former name. -/
theorem WellFormed.renamed?_eq_none (h : WellFormed set) {r : Rule} {id : String}
    (hr : r ∈ set.rules) (hid : answersTo id r = true) : set.renamed? id = none := by
  rw [renamed?, Option.map_eq_none_iff, List.find?_eq_none]
  intro e he heq
  rw [← eq_of_beq heq, h.fresh e he r hr] at hid
  cases hid

/-- A former name is not the name of a rule, nor its code in any case. -/
theorem WellFormed.former_ne (h : WellFormed set) {e : String × String} (he : e ∈ set.renames)
    {r : Rule} (hr : r ∈ set.rules) :
    e.1 ≠ r.name ∧ Text.eqIgnoringCase e.1 r.code = false := by
  have hfresh := h.fresh e he r hr
  rw [Bool.eq_false_iff, Ne, answersTo_iff, not_or] at hfresh
  refine ⟨fun heq => hfresh.1 heq.symm, ?_⟩
  rw [Bool.eq_false_iff]
  exact fun heq => hfresh.2 (eq_of_beq heq).symm

/-! ## Looking up a list of identifiers -/

section Lookup

variable {ids : List String} {found : List Nat}

theorem lookup_append (front back : List String) :
    set.lookup (front ++ back) = do return (← set.lookup front) ++ (← set.lookup back) := by
  induction front with
  | nil =>
    rw [List.nil_append, lookup]
    cases set.lookup back <;> rfl
  | cons id front ih =>
    rw [List.cons_append, lookup, lookup, ih]
    cases set.indexOf? id with
    | none => rfl
    | some i => cases set.lookup front <;> cases set.lookup back <;> rfl

theorem lookup_of_known (h : ∀ id ∈ ids, set.indexOf? id ≠ none) :
    ∃ found, set.lookup ids = .ok found ∧ found.map some = ids.map set.indexOf? := by
  induction ids with
  | nil => exact ⟨[], rfl, rfl⟩
  | cons id ids ih =>
    rw [List.forall_mem_cons] at h
    obtain ⟨i, hi⟩ := Option.ne_none_iff_exists'.1 h.1
    obtain ⟨found, hfound, hmap⟩ := ih h.2
    refine ⟨i :: found, ?_, ?_⟩
    · rw [lookup, hi, hfound]
      rfl
    · rw [List.map_cons, List.map_cons, hi, hmap]

theorem lookup_of_firstUnknown {id : String} (h : set.FirstUnknown ids id) :
    set.lookup ids = .error (.unknownRule id) := by
  obtain ⟨front, back, rfl, hfront, hid⟩ := h
  obtain ⟨found, hfound, -⟩ := lookup_of_known hfront
  rw [lookup_append, hfound, lookup, hid]
  rfl

theorem mem_iff_of_map_eq (h : found.map some = ids.map set.indexOf?) {i : Nat} :
    i ∈ found ↔ ∃ id ∈ ids, set.indexOf? id = some i := by
  rw [← List.mem_map_of_injective (Option.some_injective Nat), h, List.mem_map]

end Lookup

/-! ## Selecting rules -/

section Selection

variable {f : RuleFilter}

theorem filter_of_firstUnknown {id : String} (h : set.FirstUnknown (f.allow ++ f.deny) id) :
    set.filter f = .error (.unknownRule id) := by
  have hlookup := lookup_of_firstUnknown h
  rw [lookup_append] at hlookup
  unfold filter
  cases hallow : set.lookup f.allow with
  | error e =>
    rw [hallow] at hlookup
    cases hlookup
    rfl
  | ok allow =>
    cases hdeny : set.lookup f.deny with
    | error e =>
      rw [hallow, hdeny] at hlookup
      cases hlookup
      rfl
    | ok deny =>
      rw [hallow, hdeny] at hlookup
      cases hlookup

/-- The test that a selection makes, on the positions its identifiers stand for. -/
theorem wanted_iff {allow deny : List Nat} (hallow : allow.map some = f.allow.map set.indexOf?)
    (hdeny : deny.map some = f.deny.map set.indexOf?) {i : Nat} :
    ((allow.isEmpty || allow.contains i) && !deny.contains i) = true ↔ set.Wanted f i := by
  have hempty : allow = [] ↔ f.allow = [] := by
    rw [← List.map_eq_nil_iff (f := some), hallow, List.map_eq_nil_iff]
  rw [Wanted, ← hempty, ← mem_iff_of_map_eq hallow]
  simp only [Bool.and_eq_true, Bool.or_eq_true, List.isEmpty_iff, List.contains_iff_mem,
    Bool.not_eq_true', ← Bool.not_eq_true, mem_iff_of_map_eq hdeny, not_exists, not_and, ne_eq]

theorem filter_of_known (h : ∀ id ∈ f.allow ++ f.deny, set.indexOf? id ≠ none) :
    ∃ set', set.filter f = .ok set' ∧ set.Selects f set' := by
  rw [List.forall_mem_append] at h
  obtain ⟨allow, hallow, hallowed⟩ := lookup_of_known h.1
  obtain ⟨deny, hdeny, hdenied⟩ := lookup_of_known h.2
  let kept := set.rules.zipIdx.filter fun e =>
    (allow.isEmpty || allow.contains e.2) && !deny.contains e.2
  refine ⟨{ set with rules := kept.map (·.1) }, ?_, rfl, rfl, kept.map (·.2), ?_, ?_, ?_⟩
  · rw [filter, hallow, hdeny]
    rfl
  · have hsub : (kept.map (·.2)).Sublist (set.rules.zipIdx.map (·.2)) := List.filter_sublist.map _
    rw [List.zipIdx_map_snd] at hsub
    have hrange : (List.range' 0 set.rules.length).Pairwise (· < ·) := List.pairwise_lt_range'
    exact hrange.sublist hsub
  · intro i
    simp only [kept, List.mem_map, List.mem_filter, wanted_iff hallowed hdenied]
    constructor
    · intro hkept
      obtain ⟨e, ⟨he, hwanted⟩, rfl⟩ := hkept
      exact ⟨List.snd_lt_of_mem_zipIdx he, hwanted⟩
    · intro hi
      obtain ⟨hlt, hwanted⟩ := hi
      exact ⟨(set.rules[i], i), ⟨List.mk_mem_zipIdx_iff_getElem?.2 (List.getElem?_eq_getElem hlt),
        hwanted⟩, rfl⟩
  · rw [List.map_map, List.map_map]
    refine List.map_congr_left fun e he => ?_
    exact (List.mem_zipIdx_iff_getElem?.1 (List.mem_filter.1 he).1).symm

end Selection

/-! ## Every history -/

/-- **What holds of a rule set throughout.** After any history of operations the names and codes of the
rules are well spelled and all different. A former name is neither a name of a rule nor its code in
any case, so what a rule answers to is never looked up among the former names. A selection is refused
for the first identifier that stands for no rule, and otherwise keeps exactly the rules that are
asked for. A refused operation changes nothing. -/
theorem history_keeps_rules_apart {rules : List Rule} {start : RuleSet}
    (hstart : ofRules rules = .ok start) (ops : List Operation) :
    (∀ r ∈ (start.run ops).rules, KebabCase r.name ∧ RuleCode r.code) ∧
    ((start.run ops).rules.flatMap fun r => [r.name, r.code]).Nodup ∧
    (∀ e ∈ (start.run ops).renames, ∀ r ∈ (start.run ops).rules,
      e.1 ≠ r.name ∧ Text.eqIgnoringCase e.1 r.code = false) ∧
    (∀ r ∈ (start.run ops).rules, ∀ id, id = r.name ∨ Text.eqIgnoringCase r.code id = true →
      (start.run ops).renamed? id = none ∧
      (start.run ops).indexOf? id = { start.run ops with renames := [] }.indexOf? id) ∧
    (∀ f id, (start.run ops).FirstUnknown (f.allow ++ f.deny) id →
      (start.run ops).filter f = .error (.unknownRule id)) ∧
    (∀ f, (∀ id ∈ f.allow ++ f.deny, (start.run ops).indexOf? id ≠ none) →
      ∃ set', (start.run ops).filter f = .ok set' ∧ (start.run ops).Selects f set') ∧
    ∀ op e, (start.run ops).answer op = .error e → (start.run ops).step op = start.run ops := by
  have h : WellFormed (start.run ops) := ((Built.ofRules hstart).run ops).wellFormed
  refine ⟨?_, ?_, ?_, ?_, ?_, ?_, ?_⟩
  · intro r hr
    exact ⟨isKebabCase_iff.1 (h.kebab r hr), isRuleCode_iff.1 (h.code r hr)⟩
  · have hdistinct := h.distinct
    rwa [labels, List.flatMap_map] at hdistinct
  · intro e he r hr
    exact h.former_ne he hr
  · intro r hr id hid
    have hans : answersTo id r = true := answersTo_iff.2 (hid.imp Eq.symm eq_of_beq)
    refine ⟨h.renamed?_eq_none hr hans, ?_⟩
    have hbare : { start.run ops with renames := [] }.indexOf? id = (start.run ops).find? id :=
      indexOf?_eq_find? hr hans
    rw [indexOf?_eq_find? hr hans, hbare]
  · intro f id hid
    exact filter_of_firstUnknown hid
  · intro f hknown
    exact filter_of_known hknown
  · intro op e herr
    exact step_of_error herr

/-- The second and the third of these are refused. -/
def lookAlikeHistory : List Operation :=
  [.migrate "any" "no-any", .migrate "no-any" "no-any", .select { allow := ["TY101", "gone"] },
    .select { deny := ["any"] }, .version "2"]

theorem history_keeps_rules_apart_lookAlikes :
    ofRules lookAlikes = .ok lookAlikeSet ∧
    (lookAlikeSet.run lookAlikeHistory).rules.map (·.name) = ["ty100"] ∧
    (lookAlikeSet.run lookAlikeHistory).renames = [("any", "no-any")] ∧
    (∀ e ∈ (lookAlikeSet.run lookAlikeHistory).renames,
      ∀ r ∈ (lookAlikeSet.run lookAlikeHistory).rules,
        e.1 ≠ r.name ∧ Text.eqIgnoringCase e.1 r.code = false) ∧
    (lookAlikeSet.run lookAlikeHistory).filter { allow := ["gone"] } = .error (.unknownRule "gone") := by
  obtain ⟨-, -, hformer, -, hunknown, -, -⟩ :=
    history_keeps_rules_apart ofRules_lookAlikes lookAlikeHistory
  have hgone : (lookAlikeSet.run lookAlikeHistory).FirstUnknown ["gone"] "gone" :=
    ⟨[], [], rfl, fun _ h => (by cases h), by decide +kernel⟩
  exact ⟨ofRules_lookAlikes, by decide +kernel, by decide +kernel, hformer,
    hunknown { allow := ["gone"] } "gone" hgone⟩

end TypeLint.RuleSet
