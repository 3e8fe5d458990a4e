import Mathlib.Data.List.Flatten
import Mathlib.Data.List.Nodup
import TypeLint.Rule.RuleSet

/-!
# Which rule an identifier stands for

Rule sets are made by `ofRules`, `withVersion`, `withMigration` and `filter`, and every set made so is
well formed (`Built.wellFormed`): its names and codes are well spelled and distinct, and no former
name is one that a rule answers to.

A name may still be another rule's code in small letters. In a set where that is not so, an
identifier stands for at most one rule, and `currentName?_eq_some_iff` says for which without looking
at the other rules. That is why a directive excuses the same hits of a rule whatever else is
registered.
-/

namespace TypeLint

/-! ## Letters and their case -/

namespace Text

theorem toNat_toLower (c : Char) :
    c.toLower.toNat = if 65 ≤ c.toNat ∧ c.toNat ≤ 90 then c.toNat + 32 else c.toNat := by
  unfold Char.toLower
  split
  next h =>
    have hc : 65 ≤ c.toNat ∧ c.toNat ≤ 90 := h
    rw [if_pos hc]
    show (c.val + 32).toNat = c.toNat + 32
    rw [UInt32.toNat_add]
    exact Nat.mod_eq_of_lt (show c.toNat + 32 < 2 ^ 32 by omega)
  next h => exact (if_neg h).symm

theorem toNat_toUpper (c : Char) :
    c.toUpper.toNat = if 97 ≤ c.toNat ∧ c.toNat ≤ 122 then c.toNat - 32 else c.toNat := by
  unfold Char.toUpper
  split
  next h =>
    have hc : 97 ≤ c.toNat ∧ c.toNat ≤ 122 := h
    rw [if_pos hc]
    show (c.val + 4294967264).toNat = c.toNat - 32
    rw [UInt32.toNat_add]
    show (c.toNat + 4294967264) % 2 ^ 32 = c.toNat - 32
    omega
  next h => exact (if_neg h).symm

/-- Digits and capital letters come back from small letters. -/
theorem toUpper_toLower {c : Char} (h : isUpper c = true ∨ isDigit c = true) :
    c.toLower.toUpper = c := by
  have hcases : 65 ≤ c.toNat ∧ c.toNat ≤ 90 ∨ 48 ≤ c.toNat ∧ c.toNat ≤ 57 := by
    simpa [isUpper, isDigit, Char.le_def, UInt32.le_iff_toNat_le] using h
  refine Char.toNat_inj.1 ?_
  rw [toNat_toUpper, toNat_toLower]
  split <;> split <;> omega

theorem upperAscii_lowerAscii {s : String}
    (h : ∀ c ∈ s.toList, isUpper c = true ∨ isDigit c = true) : upperAscii (lowerAscii s) = s := by
  unfold upperAscii lowerAscii
  rw [← String.toList_inj, String.toList_map, String.toList_map, List.map_map]
  exact (List.map_congr_left fun c hc => toUpper_toLower (h c hc)).trans (List.map_id' _)
end Text

theorem isRuleCode_chars {code : String} (h : isRuleCode code = true) :
    ∀ c ∈ code.toList, Text.isUpper c = true ∨ Text.isDigit c = true := by
  unfold isRuleCode at h
  split at h
  next a b x y z hchars =>
    rw [hchars]
    simp only [List.all_cons, List.all_nil, Bool.and_true, Bool.and_eq_true] at h
    simp [h]
  next => cases h

/-- Codes that differ in case only are equal. -/
theorem eq_of_isRuleCode {a b : String} (ha : isRuleCode a = true) (hb : isRuleCode b = true)
    (h : Text.lowerAscii a = Text.lowerAscii b) : a = b := by
  rw [← Text.upperAscii_lowerAscii (isRuleCode_chars ha), h,
    Text.upperAscii_lowerAscii (isRuleCode_chars hb)]

namespace RuleSet

/-! ## Well-formed rule sets -/

/-- The names and codes of the rules, in order. -/
def labels (set : RuleSet) : List (String × String) := set.rules.map fun r => (r.name, r.code)

/-- What every way of making a rule set guarantees. -/
structure WellFormed (set : RuleSet) : Prop where
  kebab : ∀ r ∈ set.rules, isKebabCase r.name = true
  code : ∀ r ∈ set.rules, isRuleCode r.code = true
  distinct : (set.labels.flatMap fun l => [l.1, l.2]).Nodup
  fresh : ∀ e ∈ set.renames, ∀ r ∈ set.rules, answersTo e.1 r = false

/-- The rule sets that can be made. -/
inductive Built : RuleSet → Prop
  | ofRules {rules : List Rule} {set : RuleSet} (h : RuleSet.ofRules rules = .ok set) : Built set
  | withVersion {set : RuleSet} (version : String) (hb : Built set) : Built (set.withVersion version)
  | withMigration {set set' : RuleSet} {old new : String} (hb : Built set)
      (h : set.withMigration old new = .ok set') : Built set'
  | filter {set set' : RuleSet} {f : RuleFilter} (hb : Built set) (h : set.filter f = .ok set') :
      Built set'

/-- No rule's name is the code of another rule up to case. -/
def Unambiguous (set : RuleSet) : Prop :=
  ∀ r ∈ set.rules, ∀ s ∈ set.rules, r.name ≠ s.name → Text.eqIgnoringCase r.name s.code = false

variable {set set' : RuleSet}

theorem answersTo_iff {id : String} {r : Rule} :
    answersTo id r = true ↔ r.name = id ∨ Text.lowerAscii r.code = Text.lowerAscii id := by
  simp [answersTo, Text.eqIgnoringCase]

/-- Whether a rule answers to an identifier is a matter of its name and code. -/
theorem answersTo_congr (id : String) {r s : Rule} (hname : r.name = s.name)
    (hcode : r.code = s.code) : answersTo id r = answersTo id s := by
  unfold answersTo
  rw [hname, hcode]

theorem find?_eq_none_iff {id : String} :
    set.find? id = none ↔ ∀ r ∈ set.rules, answersTo id r = false :=
  List.findIdx?_eq_none_iff

theorem exists_answersTo_of_find? {id : String} {i : Nat} (h : set.find? id = some i) :
    ∃ r, set.rule? i = some r ∧ answersTo id r = true := by
  obtain ⟨hlt, hans, -⟩ := List.findIdx?_eq_some_iff_getElem.1 h
  exact ⟨_, List.getElem?_eq_getElem hlt, hans⟩

/-- The rules of a set with some of the labels of another have their names and codes there. -/
theorem exists_of_labels_sublist (hsub : set'.labels.Sublist set.labels) {r : Rule}
    (hr : r ∈ set'.rules) : ∃ s ∈ set.rules, s.name = r.name ∧ s.code = r.code := by
  have hmem : (r.name, r.code) ∈ set.labels := hsub.subset (List.mem_map_of_mem hr)
  obtain ⟨s, hs, heq⟩ := List.mem_map.1 hmem
  exact ⟨s, hs, congrArg Prod.fst heq, congrArg Prod.snd heq⟩

/-- Leaving rules out keeps a set well formed; what the rules do does not matter. -/
theorem WellFormed.of_labels_sublist (h : WellFormed set) (hsub : set'.labels.Sublist set.labels)
    (hren : set'.renames = set.renames) : WellFormed set' where
  kebab r hr := by
    obtain ⟨s, hs, hname, -⟩ := exists_of_labels_sublist hsub hr
    rw [← hname]
    exact h.kebab s hs
  code r hr := by
    obtain ⟨s, hs, -, hcode⟩ := exists_of_labels_sublist hsub hr
    rw [← hcode]
    exact h.code s hs
  distinct := h.distinct.sublist (hsub.flatMap _)
  fresh e he r hr := by
    obtain ⟨s, hs, hname, hcode⟩ := exists_of_labels_sublist hsub hr
    rw [← answersTo_congr e.1 hname hcode]
    rw [hren] at he
    exact h.fresh e he s hs

theorem Unambiguous.of_labels_sublist (h : Unambiguous set)
    (hsub : set'.labels.Sublist set.labels) : Unambiguous set' := by
  intro r hr s hs hne
  obtain ⟨r', hr', hrname, -⟩ := exists_of_labels_sublist hsub hr
  obtain ⟨s', hs', hsname, hscode⟩ := exists_of_labels_sublist hsub hs
  rw [← hrname, ← hscode]
  exact h r' hr' s' hs' (by rwa [hrname, hsname])

/-- The check goes through when the identifiers are well spelled, distinct and not seen before. -/
theorem of_validateFrom_ok :
    ∀ {seen : List String} {rules : List Rule}, validateFrom seen rules = .ok () →
      (∀ r ∈ rules, isKebabCase r.name = true ∧ isRuleCode r.code = true) ∧
      (rules.flatMap fun r => [r.name, r.code]).Nodup ∧
      ∀ id ∈ rules.flatMap (fun r => [r.name, r.code]), id ∉ seen
  | _, [], _ => ⟨fun _ h => (by cases h), List.nodup_nil, fun _ h => (by cases h)⟩
  | seen, rule :: rest, h => by
    rw [validateFrom] at h
    split at h
    next => cases h
    next hname =>
      split at h
      next => cases h
      next hcode =>
        split at h
        next => cases h
        next hseen =>
          split at h
          next => cases h
          next hseen' =>
            obtain ⟨hspelled, hnodup, hnew⟩ := of_validateFrom_ok h
            simp only [Bool.not_eq_true', Bool.not_eq_false] at hname hcode
            simp only [List.contains_iff_mem] at hseen hseen'
            refine ⟨fun r hr => ?_, ?_, fun id hid => ?_⟩
            · rcases List.mem_cons.1 hr with rfl | hr
              · exact ⟨hname, hcode⟩
              · exact hspelled r hr
            · refine List.nodup_cons.2 ⟨fun hmem => ?_, List.nodup_cons.2 ⟨fun hmem => ?_, hnodup⟩⟩
              · rcases List.mem_cons.1 hmem with heq | hmem
                · exact hseen' (heq ▸ List.mem_cons_self)
                · exact hnew _ hmem (List.mem_cons_of_mem _ List.mem_cons_self)
              · exact hnew _ hmem List.mem_cons_self
            · rcases List.mem_cons.1 hid with rfl | hid
              · exact hseen
              · rcases List.mem_cons.1 hid with rfl | hid
                · exact fun hmem => hseen' (List.mem_cons_of_mem _ hmem)
                · exact fun hmem =>
                    hnew id hid (List.mem_cons_of_mem _ (List.mem_cons_of_mem _ hmem))

/-- A selection leaves rules out and changes nothing else. -/
theorem rules_sublist_of_filter_ok {f : RuleFilter} (h : set.filter f = .ok set') :
    set'.rules.Sublist set.rules ∧ set'.renames = set.renames := by
  unfold filter at h
  cases hallow : set.lookup f.allow with
  | error e =>
    rw [hallow] at h
    cases h
  | ok allow =>
    cases hdeny : set.lookup f.deny with
    | error e =>
      rw [hallow, hdeny] at h
      cases h
    | ok deny =>
      rw [hallow, hdeny] at h
      cases h
      refine ⟨?_, rfl⟩
      have hkept := (List.filter_sublist (p := fun (e : Rule × Nat) =>
        (allow.isEmpty || allow.contains e.2) && !deny.contains e.2)
        (l := set.rules.zipIdx)).map Prod.fst
      rwa [List.zipIdx_map_fst] at hkept

theorem of_filter_ok {f : RuleFilter} (h : set.filter f = .ok set') :
    set'.labels.Sublist set.labels ∧ set'.renames = set.renames :=
  ⟨(rules_sublist_of_filter_ok h).1.map _, (rules_sublist_of_filter_ok h).2⟩

theorem of_withMigration_ok {old new : String} (h : set.withMigration old new = .ok set') :
    set.find? old = none ∧
      set' = { set with renames := (old, new) :: set.renames.filter (·.1 != old) } := by
  unfold withMigration at h
  split at h
  next => cases h
  next =>
    split at h
    next => cases h
    next hold =>
      cases h
      exact ⟨by simpa using hold, rfl⟩

/-- Every rule set that can be made is well formed. -/
theorem Built.wellFormed (hb : Built set) : WellFormed set := by
  induction hb with
  | @ofRules rules set h =>
    unfold RuleSet.ofRules at h
    cases hvalid : validateFrom [] rules with
    | error e =>
      rw [hvalid] at h
      cases h
    | ok u =>
      rw [hvalid] at h
      cases h
      obtain ⟨hspelled, hnodup, -⟩ := of_validateFrom_ok hvalid
      refine ⟨fun r hr => (hspelled r hr).1, fun r hr => (hspelled r hr).2, ?_, fun e he => ?_⟩
      · rw [labels, List.flatMap_map]
        exact hnodup
      · cases he
  | withVersion version _ ih => exact ⟨ih.kebab, ih.code, ih.distinct, ih.fresh⟩
  | withMigration _ h ih =>
    obtain ⟨hold, rfl⟩ := of_withMigration_ok h
    refine ⟨ih.kebab, ih.code, ih.distinct, fun e he => ?_⟩
    rcases List.mem_cons.1 he with rfl | he
    · exact find?_eq_none_iff.1 hold
    · exact ih.fresh e ((List.mem_filter.1 he).1)
  | filter _ h ih =>
    obtain ⟨hsub, hren⟩ := of_filter_ok h
    exact ih.of_labels_sublist hsub hren

/-! ## One rule for each identifier -/

theorem WellFormed.nodup_names (h : WellFormed set) : (set.rules.map (·.name)).Nodup := by
  have hsub : (set.labels.flatMap fun l => [l.1]).Sublist (set.labels.flatMap fun l => [l.1, l.2]) :=
    List.Sublist.flatMap_right _ fun l _ => by simp
  have hnodup := h.distinct.sublist hsub
  rw [← List.map_eq_flatMap, labels, List.map_map] at hnodup
  exact hnodup

theorem WellFormed.nodup_codes (h : WellFormed set) : (set.rules.map (·.code)).Nodup := by
  have hsub : (set.labels.flatMap fun l => [l.2]).Sublist (set.labels.flatMap fun l => [l.1, l.2]) :=
    List.Sublist.flatMap_right _ fun l _ => by simp
  have hnodup := h.distinct.sublist hsub
  rw [← List.map_eq_flatMap, labels, List.map_map] at hnodup
  exact hnodup

/-- Rules of one name are one rule. -/
theorem WellFormed.eq_of_name_eq (h : WellFormed set) {i j : Nat} {r s : Rule}
    (hr : set.rule? i = some r) (hs : set.rule? j = some s) (hname : r.name = s.name) : i = j := by
  have hi : i < (set.rules.map (·.name)).length := by
    rw [List.length_map]
    exact (List.getElem?_eq_some_iff.1 hr).1
  refine List.getElem?_inj hi h.nodup_names |>.1 ?_
  unfold rule? at hr hs
  rw [List.getElem?_map, List.getElem?_map, hr, hs]
  exact congrArg some hname

/-- Rules that answer to one identifier have one name. -/
theorem name_eq_of_answersTo (h : WellFormed set) (hu : Unambiguous set) {id : String} {r s : Rule}
    (hr : r ∈ set.rules) (hs : s ∈ set.rules) (hrid : answersTo id r = true)
    (hsid : answersTo id s = true) : r.name = s.name := by
  refine Decidable.byContradiction fun hne => ?_
  -- by name or by code on either side; that one's name is the other's code is ruled out
  rcases answersTo_iff.1 hrid with hrid | hrid <;> rcases answersTo_iff.1 hsid with hsid | hsid
  · exact hne (hrid.trans hsid.symm)
  · have hfalse := hu r hr s hs hne
    rw [Text.eqIgnoringCase, hrid, hsid] at hfalse
    simp at hfalse
  · have hfalse := hu s hs r hr (Ne.symm hne)
    rw [Text.eqIgnoringCase, hrid, hsid] at hfalse
    simp at hfalse
  · have hcode := eq_of_isRuleCode (h.code r hr) (h.code s hs) (hrid.trans hsid.symm)
    exact hne (congrArg Rule.name (List.inj_on_of_nodup_map h.nodup_codes hr hs hcode))

/-- Every rule is found by what it answers to. -/
theorem find?_of_answersTo (h : WellFormed set) (hu : Unambiguous set) {id : String} {i : Nat}
    {r : Rule} (hr : set.rule? i = some r) (hid : answersTo id r = true) :
    set.find? id = some i := by
  have hmem : r ∈ set.rules := List.mem_of_getElem? hr
  cases hfind : set.find? id with
  | none =>
    rw [find?_eq_none_iff.1 hfind r hmem] at hid
    cases hid
  | some k =>
    obtain ⟨s, hs, hans⟩ := exists_answersTo_of_find? hfind
    have hname := name_eq_of_answersTo h hu (List.mem_of_getElem? hs) hmem hans hid
    rw [h.eq_of_name_eq hs hr hname]

/-- The name of a rule is behind an identifier exactly when the identifier stands for its position. -/
theorem WellFormed.currentName?_eq_name_iff (h : WellFormed set) {i : Nat} {r : Rule}
    (hr : set.rule? i = some r) {id : String} :
    set.currentName? id = some r.name ↔ set.indexOf? id = some i := by
  unfold currentName? resolve?
  rw [Option.map_eq_some_iff]
  constructor
  · intro hname
    obtain ⟨s, hs, hsname⟩ := hname
    obtain ⟨k, hk, hks⟩ := Option.bind_eq_some_iff.1 hs
    rw [hk, h.eq_of_name_eq hks hr hsname]
  · intro hindex
    exact ⟨r, by rw [hindex, Option.bind_some, hr], rfl⟩

/-- **The rule behind an identifier.** An identifier stands for a rule when the rule answers to it or
to the name that took its place; the other rules have no say. -/
theorem currentName?_eq_some_iff (h : WellFormed set) (hu : Unambiguous set) {r : Rule}
    (hr : r ∈ set.rules) (id : String) :
    set.currentName? id = some r.name ↔
      answersTo id r = true ∨ ∃ new, set.renamed? id = some new ∧ answersTo new r = true := by
  obtain ⟨i, hi⟩ := List.getElem?_of_mem hr
  have hfound : ∀ {id'}, set.find? id' = some i → answersTo id' r = true := by
    intro id' hfind
    obtain ⟨s, hs, hans⟩ := exists_answersTo_of_find? hfind
    rw [show set.rule? i = some r from hi] at hs
    cases hs
    exact hans
  rw [h.currentName?_eq_name_iff hi]
  constructor
  · intro hindex
    rcases Option.or_eq_some_iff.1 hindex with hfind | ⟨-, hfind⟩
    · exact Or.inl (hfound hfind)
    · obtain ⟨new, hnew, hfind⟩ := Option.bind_eq_some_iff.1 hfind
      exact Or.inr ⟨new, hnew, hfound hfind⟩
  · intro hans
    rcases hans with hans | ⟨new, hnew, hans⟩
    · rw [indexOf?, find?_of_answersTo h hu hi hans, Option.some_or]
    · -- a former name is one that no rule answers to, so the lookup gets as far as the new name
      have hnone : set.find? id = none := by
        obtain ⟨e, he, -⟩ := Option.map_eq_some_iff.1 hnew
        have hid : e.1 = id := by simpa using List.find?_some he
        rw [← hid]
        exact find?_eq_none_iff.2 (h.fresh e (List.mem_of_find?_eq_some he))
      rw [indexOf?, hnone, hnew, Option.none_or]
      exact find?_of_answersTo h hu hi hans

end RuleSet

end TypeLint
