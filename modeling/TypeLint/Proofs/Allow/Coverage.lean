import TypeLint.Allow.Index

/-!
# Which directives count

A directive is written for the line its comment ends on and for the line below. An index holds one
directive for each line, the last that was given, so an earlier directive of the same line is not
heard.

`Excused` is the plain reading of the comments, where every directive counts, and `Last` picks the
directive that an index holds. The step is `onLine?_cons`: one more comment in front counts only when
nothing behind it does. From it follows, by induction on the comments, that an index answers with the
last directive of a line (`onLine?_eq_some_iff`). `check_isAllowed_iff_last` puts this together: what a
check answers, for which comments that is the plain reading, and that it is whenever no line has two
directives. `earlier_directive_lost` is a line that has two.
-/

namespace TypeLint.Allow

/-- The directive is that of a comment which ends on this line. -/
def Given (comments : List (Nat × String)) (line : Nat) (d : Directive) : Prop :=
  ∃ text, (line, text) ∈ comments ∧ Directive.parse? text = some d

/-- The directive is given on this line, and no other is given there after it. -/
def Last (comments : List (Nat × String)) (line : Nat) (d : Directive) : Prop :=
  ∃ front text back, comments = front ++ (line, text) :: back ∧
    Directive.parse? text = some d ∧ ∀ d', ¬ Given back line d'

/-- What is said on line `l` is meant for `line`: it is that line or the one above. -/
def Reaches (l line : Nat) : Prop := l = line ∨ l + 1 = line

/-- The directive lists `all`, or an identifier of the rule. -/
def Directive.Lists (d : Directive) (isRule : String → Bool) : Prop :=
  "all" ∈ d.rules ∨ ∃ id ∈ d.rules, isRule id = true

/-- Some directive that is meant for the line lists the rule. -/
def Excused (comments : List (Nat × String)) (line : Nat) (isRule : String → Bool) : Prop :=
  ∃ l d, Reaches l line ∧ Given comments l d ∧ d.Lists isRule

/-- Whatever is listed for the line is covered by a directive that is the last of its line: it lists the
same identifier, or `all`. -/
def Heard (comments : List (Nat × String)) (line : Nat) : Prop :=
  ∀ l d, Reaches l line → Given comments l d → ∀ id ∈ d.rules,
    ∃ l' d', Reaches l' line ∧ Last comments l' d' ∧ (id ∈ d'.rules ∨ "all" ∈ d'.rules)

/-- No two comments that end on one line are both directives. -/
def OnePerLine (comments : List (Nat × String)) : Prop :=
  comments.Pairwise fun c c' =>
    c.1 = c'.1 → Directive.parse? c.2 = none ∨ Directive.parse? c'.2 = none

theorem Directive.covers_iff {d : Directive} {isRule : String → Bool} :
    d.covers isRule = true ↔ d.Lists isRule := by
  simp only [covers, Lists, List.any_eq_true, Bool.or_eq_true, beq_iff_eq]
  constructor
  · intro h
    obtain ⟨id, hid, rfl | hrule⟩ := h
    · exact Or.inl hid
    · exact Or.inr ⟨id, hid, hrule⟩
  · intro h
    rcases h with hall | ⟨id, hid, hrule⟩
    · exact ⟨"all", hall, Or.inl rfl⟩
    · exact ⟨id, hid, Or.inr hrule⟩

/-! ## The comments of one line -/

section Line

variable {comments : List (Nat × String)} {c : Nat × String} {line : Nat} {d : Directive}

theorem given_cons_iff :
    Given (c :: comments) line d ↔
      (c.1 = line ∧ Directive.parse? c.2 = some d) ∨ Given comments line d := by
  constructor
  · intro h
    obtain ⟨text, hmem, hparse⟩ := h
    rcases List.mem_cons.1 hmem with rfl | hmem
    · exact Or.inl ⟨rfl, hparse⟩
    · exact Or.inr ⟨text, hmem, hparse⟩
  · intro h
    rcases h with ⟨rfl, hparse⟩ | ⟨text, hmem, hparse⟩
    · exact ⟨c.2, List.mem_cons_self, hparse⟩
    · exact ⟨text, List.mem_cons_of_mem _ hmem, hparse⟩

theorem last_cons_iff :
    Last (c :: comments) line d ↔
      Last comments line d ∨
        (∀ d', ¬ Given comments line d') ∧ c.1 = line ∧ Directive.parse? c.2 = some d := by
  constructor
  · intro h
    obtain ⟨front, text, back, hsplit, hparse, hback⟩ := h
    cases front with
    | nil =>
      obtain ⟨rfl, rfl⟩ := List.cons.inj hsplit
      exact Or.inr ⟨hback, rfl, hparse⟩
    | cons _ front =>
      obtain ⟨-, rfl⟩ := List.cons.inj hsplit
      exact Or.inl ⟨front, text, back, rfl, hparse, hback⟩
  · intro h
    rcases h with ⟨front, text, back, rfl, hparse, hback⟩ | ⟨hnone, rfl, hparse⟩
    · exact ⟨c :: front, text, back, rfl, hparse, hback⟩
    · exact ⟨[], c.2, comments, rfl, hparse, hnone⟩

theorem Last.given (h : Last comments line d) : Given comments line d := by
  obtain ⟨front, text, back, rfl, hparse, -⟩ := h
  exact ⟨text, List.mem_append_right _ List.mem_cons_self, hparse⟩

/-- Where no line has two directives, every directive is the last of its line. -/
theorem OnePerLine.last_of_given (h : OnePerLine comments) (hgiven : Given comments line d) :
    Last comments line d := by
  obtain ⟨text, hmem, hparse⟩ := hgiven
  obtain ⟨front, back, rfl⟩ := List.append_of_mem hmem
  refine ⟨front, text, back, rfl, hparse, ?_⟩
  intro d' hlater
  obtain ⟨text', hmem', hparse'⟩ := hlater
  have hback := (List.pairwise_cons.1 (List.pairwise_append.1 h).2.1).1
  rcases hback (line, text') hmem' rfl with hnone | hnone
  · rw [hparse] at hnone
    cases hnone
  · rw [hparse'] at hnone
    cases hnone

end Line

/-! ## The directive an index holds for a line -/

namespace Index

variable {comments : List (Nat × String)} {line : Nat} {d : Directive}

/-- A comment in front counts only when no later one does. -/
theorem onLine?_cons (c : Nat × String) (comments : List (Nat × String)) (line : Nat) :
    (ofComments (c :: comments)).onLine? line =
      ((ofComments comments).onLine? line).or
        (if c.1 = line then Directive.parse? c.2 else none) := by
  unfold onLine? ofComments
  cases hparse : Directive.parse? c.2 with
  | none =>
    simp only [List.filterMap_cons, hparse, Option.map_none, ite_self, Option.or_none]
  | some d =>
    simp only [List.filterMap_cons, hparse, Option.map_some, List.reverse_cons, List.find?_append,
      List.find?_singleton, beq_iff_eq]
    split
    next => rw [Option.map_or, Option.map_some]
    next => rw [Option.or_none, Option.or_none]

theorem onLine?_eq_none_iff :
    (ofComments comments).onLine? line = none ↔ ∀ d, ¬ Given comments line d := by
  induction comments with
  | nil =>
    constructor
    · intro _ d hgiven
      obtain ⟨_, hmem, _⟩ := hgiven
      cases hmem
    · intro _
      rfl
  | cons c comments ih =>
    rw [onLine?_cons, Option.or_eq_none_iff, ih]
    simp only [given_cons_iff, not_or]
    constructor
    · intro h d
      obtain ⟨hrest, hfront⟩ := h
      refine ⟨?_, hrest d⟩
      intro hc
      rw [if_pos hc.1, hc.2] at hfront
      cases hfront
    · intro h
      refine ⟨fun d => (h d).2, ?_⟩
      split
      next hline => exact Option.eq_none_iff_forall_ne_some.2 fun d hparse => (h d).1 ⟨hline, hparse⟩
      next => rfl

/-- An index answers with the last directive of a line. -/
theorem onLine?_eq_some_iff :
    (ofComments comments).onLine? line = some d ↔ Last comments line d := by
  induction comments with
  | nil =>
    constructor
    · intro h
      cases h
    · intro h
      obtain ⟨_, hmem, _⟩ := h.given
      cases hmem
  | cons c comments ih =>
    rw [onLine?_cons, Option.or_eq_some_iff, ih, last_cons_iff, onLine?_eq_none_iff,
      Option.ite_none_right_eq_some]

theorem check_isAllowed_eq (index : Index) (line : Nat) (isRule : String → Bool) :
    (index.check line isRule).isAllowed =
      (((index.onLine? (line - 1)).filter (·.covers isRule)).or
        ((index.onLine? line).filter (·.covers isRule))).isSome := by
  dsimp only [check]
  split
  next d h =>
    rw [h]
    rfl
  next h =>
    rw [h]
    rfl

/-- A check asks the two lines whose directives are meant for this one. -/
theorem check_isAllowed_iff {index : Index} {isRule : String → Bool} :
    (index.check line isRule).isAllowed = true ↔
      ∃ l d, Reaches l line ∧ index.onLine? l = some d ∧ d.covers isRule = true := by
  rw [check_isAllowed_eq, Option.isSome_iff_exists]
  constructor
  · intro h
    obtain ⟨d, h⟩ := h
    rcases Option.or_eq_some_iff.1 h with habove | ⟨-, hsame⟩
    · obtain ⟨hd, hcovers⟩ := Option.filter_eq_some_iff.1 habove
      exact ⟨line - 1, d, by unfold Reaches; omega, hd, hcovers⟩
    · obtain ⟨hd, hcovers⟩ := Option.filter_eq_some_iff.1 hsame
      exact ⟨line, d, Or.inl rfl, hd, hcovers⟩
  · intro h
    obtain ⟨l, d, hreach, hd, hcovers⟩ := h
    have hfilter : (index.onLine? l).filter (·.covers isRule) = some d :=
      Option.filter_eq_some_iff.2 ⟨hd, hcovers⟩
    rcases hreach with rfl | rfl
    · cases habove : (index.onLine? (l - 1)).filter (·.covers isRule) with
      | none => exact ⟨d, by rw [hfilter]; rfl⟩
      | some d' => exact ⟨d', rfl⟩
    · refine ⟨d, ?_⟩
      rw [Nat.add_sub_cancel, hfilter]
      rfl

theorem check_isAllowed_iff_exists_last {isRule : String → Bool} :
    ((ofComments comments).check line isRule).isAllowed = true ↔
      ∃ l d, Reaches l line ∧ Last comments l d ∧ d.Lists isRule := by
  simp only [check_isAllowed_iff, onLine?_eq_some_iff, Directive.covers_iff]

/-- A check says no more than the comments do. -/
theorem excused_of_isAllowed {isRule : String → Bool}
    (h : ((ofComments comments).check line isRule).isAllowed = true) :
    Excused comments line isRule := by
  obtain ⟨l, d, hreach, hlast, hlists⟩ := check_isAllowed_iff_exists_last.1 h
  exact ⟨l, d, hreach, hlast.given, hlists⟩

/-- **What a check answers.** A rule is excused by the last directive of the line or of the line
above. That is the plain reading of the comments exactly when such a directive covers everything they
list for the line, and so it is where no line has two directives. -/
theorem check_isAllowed_iff_last (comments : List (Nat × String)) (line : Nat) :
    (∀ isRule, ((ofComments comments).check line isRule).isAllowed = true ↔
      ∃ l d, Reaches l line ∧ Last comments l d ∧ d.Lists isRule) ∧
    ((∀ isRule, ((ofComments comments).check line isRule).isAllowed = true ↔
      Excused comments line isRule) ↔ Heard comments line) ∧
    (OnePerLine comments → Heard comments line) := by
  refine ⟨fun isRule => check_isAllowed_iff_exists_last, ⟨?_, ?_⟩, ?_⟩
  · intro hall l d hreach hgiven id hid
    -- the rule that answers to this identifier alone
    have hexcused : Excused comments line (· == id) :=
      ⟨l, d, hreach, hgiven, Or.inr ⟨id, hid, beq_self_eq_true id⟩⟩
    obtain ⟨l', d', hreach', hlast, hlists⟩ :=
      check_isAllowed_iff_exists_last.1 ((hall (· == id)).2 hexcused)
    refine ⟨l', d', hreach', hlast, ?_⟩
    rcases hlists with hlists | ⟨id', hid', heq⟩
    · exact Or.inr hlists
    · exact Or.inl (eq_of_beq heq ▸ hid')
  · intro hheard isRule
    refine ⟨excused_of_isAllowed, ?_⟩
    intro h
    obtain ⟨l, d, hreach, hgiven, hlists⟩ := h
    refine check_isAllowed_iff_exists_last.2 ?_
    rcases hlists with hmem | ⟨id, hid, hrule⟩
    · obtain ⟨l', d', hreach', hlast, hmem'⟩ := hheard l d hreach hgiven "all" hmem
      exact ⟨l', d', hreach', hlast, Or.inl (or_self_iff.1 hmem')⟩
    · obtain ⟨l', d', hreach', hlast, hmem'⟩ := hheard l d hreach hgiven id hid
      refine ⟨l', d', hreach', hlast, ?_⟩
      rcases hmem' with hmem' | hmem'
      · exact Or.inr ⟨id, hmem', hrule⟩
      · exact Or.inl hmem'
  · intro hone l d hreach hgiven id hid
    exact ⟨l, d, hreach, hone.last_of_given hgiven, Or.inl hid⟩

/-- A directive on the line and another above it. -/
def oneEach : List (Nat × String) :=
  [(1, "// typesmith: allow(a)"), (2, "// typesmith: allow(b)")]

theorem check_isAllowed_iff_last_oneEach :
    OnePerLine oneEach ∧ Heard oneEach 2 ∧ Excused oneEach 2 (· == "a") ∧
    ((ofComments oneEach).check 2 (· == "a")).isAllowed = true := by
  have hone : OnePerLine oneEach := by
    unfold OnePerLine
    decide +kernel
  obtain ⟨-, hplain, hheard⟩ := check_isAllowed_iff_last oneEach 2
  have hgiven : Given oneEach 1 ⟨["a"], none⟩ :=
    ⟨"// typesmith: allow(a)", List.mem_cons_self, by decide +kernel⟩
  have hexcused : Excused oneEach 2 (· == "a") :=
    ⟨1, _, Or.inr rfl, hgiven, Or.inr ⟨"a", List.mem_cons_self, rfl⟩⟩
  exact ⟨hone, hheard hone, hexcused, (hplain.2 (hheard hone) _).2 hexcused⟩

/-! ## A line with two directives -/

/-- A comment on either side of a statement, each for a rule of its own. -/
def bothSides : List (Nat × String) :=
  [(1, "/* typesmith: allow(a) */"), (1, "// typesmith: allow(b)")]

/-- The first of them is lost, on its line and on the one below. -/
theorem earlier_directive_lost :
    Excused bothSides 1 (· == "a") ∧ (ofComments bothSides).check 1 (· == "a") = .denied ∧
    Excused bothSides 2 (· == "a") ∧ (ofComments bothSides).check 2 (· == "a") = .denied := by
  have hgiven : Given bothSides 1 ⟨["a"], none⟩ :=
    ⟨"/* typesmith: allow(a) */", List.mem_cons_self, by decide +kernel⟩
  have hlists : Directive.Lists ⟨["a"], none⟩ (· == "a") := Or.inr ⟨"a", List.mem_cons_self, rfl⟩
  exact ⟨⟨1, _, Or.inl rfl, hgiven, hlists⟩, by decide +kernel,
    ⟨1, _, Or.inr rfl, hgiven, hlists⟩, by decide +kernel⟩

end Index

end TypeLint.Allow
