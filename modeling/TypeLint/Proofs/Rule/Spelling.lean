import Mathlib.Data.List.Infix
import TypeLint.Rule.RuleSet

/-!
# How identifiers are spelled

The checks of a name and of a code, each beside what it stands for. A name is cut at its hyphens and
every part has to be a word; `isKebabCase_iff` says what that comes to for the name as it stands.
`isRuleCode_iff` does the same for codes. A name is never a code (`ne_of_isKebabCase_of_isRuleCode`):
a code has capital letters and a name has none.
-/

namespace TypeLint

open Text

/-- Small letters, digits and hyphens, never two hyphens in a row and none at the back. -/
structure Hyphenated (cs : List Char) : Prop where
  chars : ∀ c ∈ cs, isLower c = true ∨ isDigit c = true ∨ c = '-'
  single : ¬ ['-', '-'] <:+: cs
  back : cs.getLast? ≠ some '-'

/-- What a name has to look like. -/
structure KebabCase (name : String) : Prop extends Hyphenated name.toList where
  nonempty : name.toList ≠ []
  front : name.toList.head? ≠ some '-'

/-- What a code has to look like: two capital letters and three digits. -/
def RuleCode (code : String) : Prop :=
  ∃ letters digits, code.toList = letters ++ digits ∧
    letters.length = 2 ∧ (∀ c ∈ letters, isUpper c = true) ∧
    digits.length = 3 ∧ ∀ c ∈ digits, isDigit c = true

/-! ## Names -/

section Names

variable {c : Char} {cs : List Char}

theorem hyphenated_nil : Hyphenated [] :=
  ⟨fun _ h => (by cases h), by simp, by simp⟩

/-- After a hyphen something else has to follow. -/
theorem hyphenated_cons_hyphen_iff :
    Hyphenated ('-' :: cs) ↔ (cs ≠ [] ∧ cs.head? ≠ some '-') ∧ Hyphenated cs := by
  have hpair : ['-', '-'] <+: '-' :: cs ↔ cs.head? = some '-' := by
    rw [List.cons_prefix_cons, List.singleton_prefix_iff_head?_eq_some, and_iff_right rfl]
  constructor
  · intro h
    have hsingle := h.single
    rw [List.infix_cons_iff, hpair, not_or] at hsingle
    have hne : cs ≠ [] := by
      rintro rfl
      exact h.back rfl
    refine ⟨⟨hne, hsingle.1⟩, fun d hd => h.chars d (List.mem_cons_of_mem _ hd), hsingle.2, ?_⟩
    have hback := h.back
    rwa [List.getLast?_cons_of_ne_nil hne] at hback
  · intro h
    obtain ⟨⟨hne, hfront⟩, h⟩ := h
    refine ⟨fun d hd => ?_, ?_, ?_⟩
    · rcases List.mem_cons.1 hd with rfl | hd
      · exact Or.inr (Or.inr rfl)
      · exact h.chars d hd
    · rw [List.infix_cons_iff, hpair, not_or]
      exact ⟨hfront, h.single⟩
    · rw [List.getLast?_cons_of_ne_nil hne]
      exact h.back

/-- Any other character says nothing about what follows. -/
theorem hyphenated_cons_iff (hc : c ≠ '-') :
    Hyphenated (c :: cs) ↔ (isLower c = true ∨ isDigit c = true) ∧ Hyphenated cs := by
  have hpair : ¬ ['-', '-'] <+: c :: cs := by
    rw [List.cons_prefix_cons]
    exact fun h => hc h.1.symm
  have hback : (c :: cs).getLast? ≠ some '-' ↔ cs.getLast? ≠ some '-' := by
    cases cs with
    | nil => simpa using hc
    | cons d ds => rw [List.getLast?_cons_of_ne_nil (List.cons_ne_nil d ds)]
  constructor
  · intro h
    refine ⟨?_, fun d hd => h.chars d (List.mem_cons_of_mem _ hd), ?_, hback.1 h.back⟩
    · rcases h.chars c List.mem_cons_self with hlower | hdigit | hhyphen
      · exact Or.inl hlower
      · exact Or.inr hdigit
      · exact absurd hhyphen hc
    · exact fun hinfix => h.single (List.infix_cons_iff.2 (Or.inr hinfix))
  · intro h
    obtain ⟨hword, h⟩ := h
    refine ⟨fun d hd => ?_, ?_, hback.2 h.back⟩
    · rcases List.mem_cons.1 hd with rfl | hd
      · exact hword.imp_right Or.inl
      · exact h.chars d hd
    · rw [List.infix_cons_iff, not_or]
      exact ⟨hpair, h.single⟩

/-- The parts between hyphens: the first has no bad character and the others are words exactly when
the text is hyphenated, and the first is empty exactly when nothing stands before a hyphen. -/
theorem exists_splitAt_hyphen (cs : List Char) :
    ∃ part parts, splitAt '-' cs = part :: parts ∧
      ((∀ c ∈ part, isLower c = true ∨ isDigit c = true) ∧
        (∀ g ∈ parts, g ≠ [] ∧ ∀ c ∈ g, isLower c = true ∨ isDigit c = true) ↔ Hyphenated cs) ∧
      (part ≠ [] ↔ cs ≠ [] ∧ cs.head? ≠ some '-') := by
  induction cs with
  | nil => exact ⟨[], [], rfl, by simp [hyphenated_nil], by simp⟩
  | cons c cs ih =>
    obtain ⟨part, parts, hsplit, hwords, hfirst⟩ := ih
    by_cases hc : c = '-'
    · subst hc
      refine ⟨[], part :: parts, by rw [splitAt, if_pos rfl, hsplit], ?_, by simp⟩
      rw [hyphenated_cons_hyphen_iff, ← hfirst, ← hwords, List.forall_mem_cons]
      simp only [List.not_mem_nil, false_implies, implies_true, true_and, and_assoc]
    · refine ⟨c :: part, parts, by rw [splitAt, if_neg hc, hsplit], ?_, by simpa using hc⟩
      rw [hyphenated_cons_iff hc, ← hwords, List.forall_mem_cons, and_assoc]

theorem isKebabCase_iff {name : String} : isKebabCase name = true ↔ KebabCase name := by
  obtain ⟨part, parts, hsplit, hwords, hfirst⟩ := exists_splitAt_hyphen name.toList
  have hcheck : isKebabCase name = true ↔ part ≠ [] ∧
      (∀ c ∈ part, isLower c = true ∨ isDigit c = true) ∧
        ∀ g ∈ parts, g ≠ [] ∧ ∀ c ∈ g, isLower c = true ∨ isDigit c = true := by
    simp [isKebabCase, hsplit, and_assoc]
  rw [hcheck, hwords, hfirst]
  constructor
  · intro h
    exact ⟨h.2, h.1.1, h.1.2⟩
  · intro h
    exact ⟨⟨h.nonempty, h.front⟩, h.toHyphenated⟩

end Names

/-! ## Codes -/

theorem isRuleCode_iff {code : String} : isRuleCode code = true ↔ RuleCode code := by
  unfold isRuleCode
  constructor
  · intro h
    split at h
    next a b x y z hchars =>
      simp only [List.all_cons, List.all_nil, Bool.and_true, Bool.and_eq_true] at h
      exact ⟨[a, b], [x, y, z], hchars, rfl, by simpa using h.1, rfl, by simpa using h.2⟩
    next => cases h
  · intro h
    obtain ⟨letters, digits, hchars, hletters, hupper, hdigits, hdigit⟩ := h
    obtain ⟨a, b, rfl⟩ := List.length_eq_two.1 hletters
    obtain ⟨x, y, z, rfl⟩ := List.length_eq_three.1 hdigits
    rw [hchars]
    show ([a, b].all isUpper && [x, y, z].all isDigit) = true
    rw [List.all_eq_true.2 hupper, List.all_eq_true.2 hdigit]
    rfl

theorem not_isUpper_of_name {c : Char} (h : isLower c = true ∨ isDigit c = true ∨ c = '-') :
    isUpper c = false := by
  have hcode : 97 ≤ c.toNat ∨ c.toNat ≤ 57 := by
    rcases h with hlower | hdigit | rfl
    · have hrange : 97 ≤ c.toNat ∧ c.toNat ≤ 122 := by
        simpa [isLower, Char.le_def, UInt32.le_iff_toNat_le] using hlower
      exact Or.inl hrange.1
    · have hrange : 48 ≤ c.toNat ∧ c.toNat ≤ 57 := by
        simpa [isDigit, Char.le_def, UInt32.le_iff_toNat_le] using hdigit
      exact Or.inr hrange.2
    · exact Or.inr (by decide)
  rw [Bool.eq_false_iff]
  intro hupper
  have hrange : 65 ≤ c.toNat ∧ c.toNat ≤ 90 := by
    simpa [isUpper, Char.le_def, UInt32.le_iff_toNat_le] using hupper
  omega

/-- A code starts with a capital letter, and a name has none. -/
theorem ne_of_isKebabCase_of_isRuleCode {name code : String} (hname : isKebabCase name = true)
    (hcode : isRuleCode code = true) : name ≠ code := by
  rintro rfl
  obtain ⟨letters, digits, hchars, hletters, hupper, -, -⟩ := isRuleCode_iff.1 hcode
  obtain ⟨a, b, rfl⟩ := List.length_eq_two.1 hletters
  have hmem : a ∈ name.toList := by
    rw [hchars]
    exact List.mem_append_left _ List.mem_cons_self
  have hlower := not_isUpper_of_name ((isKebabCase_iff.1 hname).chars a hmem)
  rw [hupper a List.mem_cons_self] at hlower
  cases hlower

end TypeLint
