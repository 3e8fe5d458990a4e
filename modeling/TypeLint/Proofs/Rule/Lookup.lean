import TypeLint.Proofs.Rule.Identity
import TypeLint.Proofs.Rule.Spelling

/-!
# Which rule is found by its own identifiers

A rule set takes no identifier twice, and compares identifiers as they are written. A look-up takes the
first rule with that name or with that code in any case. The two do not go together: `ty100` is a name
of its own and also the code `TY100` in small letters, and a set may have both. What is found then is
the rule that was registered first.

`indexOf?_eq_some_iff` says when a rule is found by something it answers to: no earlier rule answers to
it. In a well-formed set an earlier rule can only be in the way by a code that is the name, or by a
name that is a spelling of the code. So every rule is found by its code as written, and all rules are
found by all their identifiers exactly in unambiguous sets; `finds_own_identifiers_iff` says both.
`name_finds_other_rule` is a set where a name finds another rule.
-/

namespace TypeLint.RuleSet

/-- Every rule is found by its name, and by its code in every spelling. -/
def FindsOwn (set : RuleSet) : Prop :=
  ∀ i r, set.rule? i = some r → set.indexOf? r.name = some i ∧
    ∀ spelling, Text.eqIgnoringCase r.code spelling = true → set.indexOf? spelling = some i

variable {set : RuleSet} {i j : Nat} {r s : Rule} {id : String}

/-- Former names are not asked about what a rule answers to. -/
theorem indexOf?_eq_find? (hr : r ∈ set.rules) (hid : answersTo id r = true) :
    set.indexOf? id = set.find? id := by
  cases hfind : set.find? id with
  | none =>
    rw [find?_eq_none_iff.1 hfind r hr] at hid
    cases hid
  | some k => rw [indexOf?, hfind, Option.some_or]

/-- A rule is found by what it answers to unless an earlier rule answers to it too. -/
theorem indexOf?_eq_some_iff (hr : set.rule? i = some r) (hid : answersTo id r = true) :
    set.indexOf? id = some i ↔
      ∀ j s, j < i → set.rule? j = some s → answersTo id s = false := by
  obtain ⟨hi, hget⟩ := List.getElem?_eq_some_iff.1 hr
  rw [indexOf?_eq_find? (List.mem_of_getElem? hr) hid, find?, List.findIdx?_eq_some_iff_getElem]
  constructor
  · intro h j s hj hs
    obtain ⟨_, _, hbefore⟩ := h
    obtain ⟨hlt, rfl⟩ := List.getElem?_eq_some_iff.1 hs
    exact Bool.eq_false_iff.2 (hbefore j hj)
  · intro h
    refine ⟨hi, by rwa [hget], fun j hj => ?_⟩
    rw [h j _ hj (List.getElem?_eq_getElem (Nat.lt_trans hj hi))]
    exact Bool.false_ne_true

/-- Rules of one code are one rule. -/
theorem WellFormed.eq_of_code_eq (h : WellFormed set) (hr : set.rule? i = some r)
    (hs : set.rule? j = some s) (hcode : r.code = s.code) : i = j := by
  have hrs : r = s := List.inj_on_of_nodup_map h.nodup_codes (List.mem_of_getElem? hr)
    (List.mem_of_getElem? hs) hcode
  exact h.eq_of_name_eq hr hs (congrArg Rule.name hrs)

/-- Another rule answers to a name only by its code. -/
theorem WellFormed.answersTo_name (h : WellFormed set) (hr : set.rule? i = some r)
    (hs : set.rule? j = some s) (hne : j ≠ i) :
    answersTo r.name s = Text.eqIgnoringCase s.code r.name := by
  have hname : (s.name == r.name) = false :=
    beq_eq_false_iff_ne.2 fun heq => hne (h.eq_of_name_eq hs hr heq)
  rw [answersTo, hname, Bool.false_or]

/-- Another rule answers to a spelling of a code only by its name. -/
theorem WellFormed.answersTo_spelling (h : WellFormed set) (hr : set.rule? i = some r)
    (hs : set.rule? j = some s) (hne : j ≠ i) {spelling : String}
    (hspell : Text.eqIgnoringCase r.code spelling = true) :
    answersTo spelling s = (s.name == spelling) := by
  have hcode : Text.eqIgnoringCase s.code spelling = false := by
    rw [Bool.eq_false_iff]
    intro heq
    have hlower : Text.lowerAscii s.code = Text.lowerAscii r.code :=
      (eq_of_beq heq).trans (eq_of_beq hspell).symm
    exact hne (h.eq_of_code_eq hs hr (eq_of_isRuleCode (h.code s (List.mem_of_getElem? hs))
      (h.code r (List.mem_of_getElem? hr)) hlower))
  rw [answersTo, hcode, Bool.or_false]

theorem WellFormed.indexOf?_name_iff (h : WellFormed set) (hr : set.rule? i = some r) :
    set.indexOf? r.name = some i ↔
      ∀ j s, j < i → set.rule? j = some s → Text.eqIgnoringCase s.code r.name = false := by
  rw [indexOf?_eq_some_iff hr (answersTo_iff.2 (Or.inl rfl))]
  refine forall₄_congr fun j s hj hs => ?_
  rw [h.answersTo_name hr hs (Nat.ne_of_lt hj)]

theorem WellFormed.indexOf?_spelling_iff (h : WellFormed set) (hr : set.rule? i = some r)
    {spelling : String} (hspell : Text.eqIgnoringCase r.code spelling = true) :
    set.indexOf? spelling = some i ↔
      ∀ j s, j < i → set.rule? j = some s → s.name ≠ spelling := by
  rw [indexOf?_eq_some_iff hr (answersTo_iff.2 (Or.inr (eq_of_beq hspell)))]
  refine forall₄_congr fun j s hj hs => ?_
  rw [h.answersTo_spelling hr hs (Nat.ne_of_lt hj) hspell, beq_eq_false_iff_ne]

/-- A code as it is written finds its rule: no name is a code. -/
theorem WellFormed.indexOf?_code (h : WellFormed set) (hr : set.rule? i = some r) :
    set.indexOf? r.code = some i := by
  refine (h.indexOf?_spelling_iff hr (beq_self_eq_true _)).2 fun j s _ hs => ?_
  exact ne_of_isKebabCase_of_isRuleCode (h.kebab s (List.mem_of_getElem? hs))
    (h.code r (List.mem_of_getElem? hr))

theorem FindsOwn.unambiguous (h : FindsOwn set) : Unambiguous set := by
  intro r hr s hs hne
  rw [Bool.eq_false_iff]
  intro heq
  obtain ⟨i, hi⟩ := List.getElem?_of_mem hr
  obtain ⟨j, hj⟩ := List.getElem?_of_mem hs
  -- the name of one is a spelling of the other's code, so it would have to find both
  have hspell : Text.eqIgnoringCase s.code r.name = true := beq_iff_eq.2 (eq_of_beq heq).symm
  have hboth := ((h i r hi).1).symm.trans ((h j s hj).2 r.name hspell)
  rw [Option.some.injEq] at hboth
  subst hboth
  rw [hi, Option.some.injEq] at hj
  exact hne (congrArg Rule.name hj)

theorem WellFormed.findsOwn (h : WellFormed set) (hu : Unambiguous set) : FindsOwn set := by
  intro i r hr
  have hfind : ∀ id, answersTo id r = true → set.indexOf? id = some i := by
    intro id hid
    rw [indexOf?_eq_find? (List.mem_of_getElem? hr) hid]
    exact find?_of_answersTo h hu hr hid
  exact ⟨hfind _ (answersTo_iff.2 (Or.inl rfl)),
    fun spelling hspell => hfind _ (answersTo_iff.2 (Or.inr (eq_of_beq hspell)))⟩

/-- **A rule and its identifiers.** In a set that can be made every rule is found by all its
identifiers exactly when no name is another rule's code in other letters. In any case a rule is found
by its code as written, by its name unless that is a spelling of an earlier rule's code, and by another
spelling of its code unless that is an earlier rule's name. -/
theorem finds_own_identifiers_iff (hb : Built set) :
    (FindsOwn set ↔ Unambiguous set) ∧
    ∀ i r, set.rule? i = some r →
      set.indexOf? r.code = some i ∧
      (set.indexOf? r.name = some i ↔
        ∀ j s, j < i → set.rule? j = some s → Text.eqIgnoringCase s.code r.name = false) ∧
      ∀ spelling, Text.eqIgnoringCase r.code spelling = true →
        (set.indexOf? spelling = some i ↔
          ∀ j s, j < i → set.rule? j = some s → s.name ≠ spelling) := by
  have h := hb.wellFormed
  refine ⟨⟨FindsOwn.unambiguous, h.findsOwn⟩, fun i r hr => ?_⟩
  exact ⟨h.indexOf?_code hr, h.indexOf?_name_iff hr, fun _ hspell => h.indexOf?_spelling_iff hr hspell⟩

/-! ## A name that is a code in small letters -/

/-- The second rule has the code of the first one, in small letters, for its name. -/
def lookAlikes : List Rule :=
  [{ name := "no-any", code := "TY100", severity := .warning },
    { name := "ty100", code := "TY101", severity := .warning }]

def lookAlikeSet : RuleSet := { version := "0", rules := lookAlikes, renames := [] }

theorem ofRules_lookAlikes : ofRules lookAlikes = .ok lookAlikeSet := by
  have hvalid : validateFrom [] lookAlikes = .ok () := by decide +kernel
  rw [ofRules, hvalid]
  rfl

theorem finds_own_identifiers_iff_lookAlikes :
    Built lookAlikeSet ∧ (FindsOwn lookAlikeSet ↔ Unambiguous lookAlikeSet) ∧
    lookAlikeSet.rule? 1 = some lookAlikes[1] ∧ lookAlikeSet.indexOf? "TY101" = some 1 := by
  have hb : Built lookAlikeSet := .ofRules ofRules_lookAlikes
  obtain ⟨hiff, hfound⟩ := finds_own_identifiers_iff hb
  exact ⟨hb, hiff, rfl, (hfound 1 lookAlikes[1] rfl).1⟩

/-- The set is accepted, and the name of its second rule finds the first one. -/
theorem name_finds_other_rule :
    ofRules lookAlikes = .ok lookAlikeSet ∧ lookAlikeSet.rule? 1 = some lookAlikes[1] ∧
    lookAlikeSet.indexOf? lookAlikes[1].name = some 0 := by
  have hspell : Text.lowerAscii "TY100" = Text.lowerAscii "ty100" := by
    unfold Text.lowerAscii
    rw [← String.toList_inj, String.toList_map, String.toList_map]
    decide
  refine ⟨ofRules_lookAlikes, rfl, ?_⟩
  refine (indexOf?_eq_some_iff (r := lookAlikes[0]) rfl (answersTo_iff.2 (Or.inr hspell))).2 ?_
  intro j s hj
  exact absurd hj (Nat.not_lt_zero j)

end TypeLint.RuleSet
