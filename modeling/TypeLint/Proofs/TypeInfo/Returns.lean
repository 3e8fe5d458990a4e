import TypeLint.Proofs.Tree.Preorder
import TypeLint.TypeInfo.Local

/-!
# Types from return statements

The local oracle tells the type of a function from the literals its own return statements give. Here
each of the three words has a meaning apart from the search: `Widens` is the type of a literal under
signs and parentheses, `Owned` the nodes of a function that belong to no function or class further in,
and `Returns` the type of a set of statements, where neither order nor number matters.

`blockType?_eq_some_iff` says that the oracle finds that type. `gather` reads the statements in a loop
that keeps the type found and whether a statement had no value, and stops at the first statement that does
not fit; `gather_eq_some_iff` says the same of it, for any list that holds the statements. `Scan` is that
loop together with the stack that leads to the statements. Each step of it puts the followers of a node on
the stack or reads a statement (`step_cases`), so where the walk ends, it has read what the walk has seen,
and its answer is that of the oracle (`Scan.run_eq`). The main result is
`function_type_from_own_returns`.
-/

namespace TypeLint.LocalTypes

variable {t : SyntaxTree}

/-! ## Literals -/

/-- The kinds of literal whose type is told by the kind alone. -/
def literalTypes : List (String × String) :=
  [("string", "string"), ("number", "number"), ("true", "boolean"), ("false", "boolean"),
    ("null", "null"), ("undefined", "undefined")]

/-- The expression is a literal of this type, signs and parentheses included. -/
inductive Widens : Node t → String → Prop where
  | literal {e : Node t} {type : String} (kind : (e.kind, type) ∈ literalTypes) : Widens e type
  | template {e : Node t} (kind : e.kind = "template_string")
      (plain : ∀ c ∈ e.namedChildren, c.kind ≠ "template_substitution") : Widens e "string"
  | parentheses {e inner : Node t} {type : String} (kind : e.kind = "parenthesized_expression")
      (inside : e.firstNamed? = some inner) (widens : Widens inner type) : Widens e type
  | negation {e operand : Node t} (kind : e.kind = "unary_expression")
      (argument : e.child? "argument" = some operand) (token : e.hasToken "!" = true) :
    Widens e "boolean"
  | sign {e operand : Node t} (kind : e.kind = "unary_expression")
      (argument : e.child? "argument" = some operand) (other : e.hasToken "!" = false)
      (token : e.hasToken "-" = true ∨ e.hasToken "+" = true) (widens : Widens operand "number") :
    Widens e "number"

theorem widens_of_widened? {e : Node t} {type : String} (h : widened? e = some type) :
    Widens e type := by
  fun_induction widened? e generalizing type with
  | case1 e kind | case4 e kind | case5 e kind | case6 e kind | case7 e kind | case8 e kind =>
    cases h
    exact .literal (by rw [kind]; decide)
  | case3 e kind plain =>
    cases h
    exact .template kind (by simpa using plain)
  | case9 e kind inner inside ih => exact .parentheses kind inside (ih h)
  | case11 e kind operand argument token =>
    cases h
    exact .negation kind argument token
  | case12 e kind operand argument other token number ih =>
    cases h
    have hoperand : Widens operand "number" := ih (by simpa using number)
    exact .sign kind argument (by simpa using other) (by simpa using token) hoperand
  | case2 | case10 | case13 | case14 | case15 | case16 => cases h

theorem widened?_of_widens {e : Node t} {type : String} (h : Widens e type) :
    widened? e = some type := by
  induction h with
  | literal kind =>
    simp only [literalTypes, List.mem_cons, Prod.mk.injEq, List.not_mem_nil, or_false] at kind
    rcases kind with ⟨kind, rfl⟩ | ⟨kind, rfl⟩ | ⟨kind, rfl⟩ | ⟨kind, rfl⟩ | ⟨kind, rfl⟩ | ⟨kind, rfl⟩
    all_goals simp [widened?, kind]
  | template kind plain => simpa [widened?, kind] using plain
  | parentheses kind inside _ ih =>
    rw [widened?]
    simp only [kind]
    split
    next inner h =>
      rw [inside] at h
      cases h
      exact ih
    next h =>
      rw [inside] at h
      cases h
  | negation kind argument token =>
    rw [widened?]
    simp only [kind]
    split
    next operand h => rw [if_pos token]
    next h =>
      rw [argument] at h
      cases h
  | sign kind argument other token _ ih =>
    rw [widened?]
    simp only [kind]
    split
    next operand h =>
      rw [argument] at h
      cases h
      rw [if_neg (by simp [other]), if_pos (by simpa using token), if_pos (by simp [ih])]
    next h =>
      rw [argument] at h
      cases h

theorem widened?_eq_some_iff {e : Node t} {type : String} :
    widened? e = some type ↔ Widens e type :=
  ⟨widens_of_widened?, widened?_of_widens⟩

/-- No literal is of the type that stands for no value. -/
theorem Widens.ne_void {e : Node t} {type : String} (h : Widens e type) : type ≠ "void" := by
  induction h with
  | literal kind =>
    rintro rfl
    simp [literalTypes] at kind
  | template => decide
  | parentheses _ _ _ ih => exact ih
  | negation => decide
  | sign => decide

/-! ## The statements of a function -/

/-- The node belongs to the function with this body: it is come to through named children, and neither
by way of another function or a class nor from inside a return statement. -/
inductive Owned (body : Node t) : Node t → Prop where
  | body : Owned body body
  | child {n c : Node t} (owned : Owned body n) (other : n.kind ≠ "return_statement")
      (child : c ∈ n.namedChildren) (within : isNestedScope c = false) : Owned body c

/-- A return statement of the function with this body. -/
structure OwnReturn (body statement : Node t) : Prop where
  owned : Owned body statement
  kind : statement.kind = "return_statement"

/-- The statement returns a literal of this type. -/
def Gives (statement : Node t) (type : String) : Prop :=
  ∃ value, returned? statement = some value ∧ Widens value type

theorem mem_withinFunction_iff {n c : Node t} :
    c ∈ withinFunction n ↔
      n.kind ≠ "return_statement" ∧ c ∈ n.namedChildren ∧ isNestedScope c = false := by
  unfold withinFunction
  split
  next h =>
    have h : n.kind = "return_statement" := by simpa using h
    simp [h]
  next h =>
    have h : n.kind ≠ "return_statement" := by simpa using h
    simp [h]

theorem descends_withinFunction : Node.Descends (withinFunction (t := t)) :=
  (Node.descends_namedChildren.filter _).cut _

section Search

variable {next : Node t → List (Node t)} (hperm : ∀ n, (next n).Perm (withinFunction n))
include hperm

/-- The search sees the nodes of the function, in whatever order it takes the children. -/
theorem mem_reach_iff_owned {body n : Node t} : n ∈ body.reach next ↔ Owned body n := by
  rw [Node.mem_reach_iff (descends_withinFunction.of_perm hperm)]
  constructor
  · intro hn
    induction hn with
    | refl => exact .body
    | tail _ hstep ih =>
      obtain ⟨hother, hchild, hwithin⟩ := mem_withinFunction_iff.1 ((hperm _).mem_iff.1 hstep)
      exact .child ih hother hchild hwithin
  · intro hn
    induction hn with
    | body => exact .refl
    | child _ other child within ih =>
      exact ih.tail ((hperm _).mem_iff.2 (mem_withinFunction_iff.2 ⟨other, child, within⟩))

theorem mem_filter_reach_iff {body s : Node t} :
    s ∈ (body.reach next).filter (·.kind == "return_statement") ↔ OwnReturn body s := by
  rw [List.mem_filter, mem_reach_iff_owned hperm, beq_iff_eq]
  exact ⟨fun h => ⟨h.1, h.2⟩, fun h => ⟨h.owned, h.kind⟩⟩

end Search

theorem mem_returnStatements_iff {body s : Node t} : s ∈ returnStatements body ↔ OwnReturn body s :=
  mem_filter_reach_iff fun _ => .rfl

/-! ## The type of a set of statements -/

theorem Gives.eq {s : Node t} {type type' : String} (h : Gives s type) (h' : Gives s type') :
    type = type' := by
  obtain ⟨value, hvalue, hwidens⟩ := h
  obtain ⟨value', hvalue', hwidens'⟩ := h'
  rw [hvalue] at hvalue'
  cases hvalue'
  rw [← widened?_eq_some_iff] at hwidens hwidens'
  rw [hwidens] at hwidens'
  cases hwidens'
  rfl

theorem Gives.ne_none {s : Node t} {type : String} (h : Gives s type) : returned? s ≠ none := by
  obtain ⟨value, hvalue, -⟩ := h
  rw [hvalue]
  exact Option.some_ne_none value

theorem not_gives {s value : Node t} {type : String} (hvalue : returned? s = some value)
    (htype : widened? value ≠ some type) : ¬ Gives s type := by
  rintro ⟨value', hvalue', hwidens⟩
  rw [hvalue] at hvalue'
  cases hvalue'
  exact htype (widened?_eq_some_iff.2 hwidens)

/-- A statement has no value, or a literal of some type, or a value that is no literal. -/
theorem returned?_cases (s : Node t) :
    returned? s = none ∨ (∃ type, Gives s type) ∨
      ∃ value, returned? s = some value ∧ widened? value = none := by
  cases hvalue : returned? s with
  | none => exact Or.inl rfl
  | some value =>
    cases htype : widened? value with
    | none => exact Or.inr (Or.inr ⟨value, rfl, htype⟩)
    | some type => exact Or.inr (Or.inl ⟨type, value, hvalue, widened?_eq_some_iff.1 htype⟩)

/-- There are fewer values than statements exactly when some statement has none. -/
theorem length_values_lt_iff {statements : List (Node t)} :
    (statements.filterMap returned?).length < statements.length ↔
      ∃ s ∈ statements, returned? s = none := by
  have hle : statements.countP (fun s => (returned? s).isSome) ≤ statements.length :=
    List.countP_le_length
  have heq : statements.countP (fun s => (returned? s).isSome) = statements.length ↔
      ∀ s ∈ statements, (returned? s).isSome = true := List.countP_eq_length
  rw [List.length_filterMap_eq_countP]
  constructor
  · intro hlt
    by_contra hnone
    have hall := heq.2 fun s hs => Option.isSome_iff_ne_none.2 fun h => hnone ⟨s, hs, h⟩
    omega
  · rintro ⟨s, hs, hnone⟩
    have hne : statements.countP (fun s => (returned? s).isSome) ≠ statements.length := by
      intro hcount
      have hsome := heq.1 hcount s hs
      rw [hnone] at hsome
      cases hsome
    omega

/-- All statements give the type when none lacks a value and every value has the type. -/
theorem forall_gives_iff {statements : List (Node t)} {type : String} :
    (∀ s ∈ statements, Gives s type) ↔
      ¬ (statements.filterMap returned?).length < statements.length ∧
        ∀ value ∈ statements.filterMap returned?, widened? value = some type := by
  rw [length_values_lt_iff]
  simp only [List.mem_filterMap]
  constructor
  · intro hall
    constructor
    · rintro ⟨s, hs, hnone⟩
      exact (hall s hs).ne_none hnone
    · rintro value ⟨s, hs, hvalue⟩
      by_contra htype
      exact not_gives hvalue htype (hall s hs)
  · rintro ⟨hvalues, htypes⟩ s hs
    obtain ⟨value, hvalue⟩ : ∃ value, returned? s = some value :=
      Option.ne_none_iff_exists'.1 fun hnone => hvalues ⟨s, hs, hnone⟩
    exact ⟨value, hvalue, widened?_eq_some_iff.1 (htypes value ⟨s, hs, hvalue⟩)⟩

/-- The statements of a body return a type, said of all of them at once: `void` where none has a value,
and else the type of every value. -/
def Returns (own : Node t → Prop) (type : String) : Prop :=
  (type = "void" ∧ ∀ s, own s → returned? s = none) ∨
    (∃ s, own s) ∧ ∀ s, own s → Gives s type

section Returns

variable {own : Node t → Prop} {type : String}

theorem returns_void_iff : Returns own "void" ↔ ∀ s, own s → returned? s = none := by
  constructor
  · rintro (⟨-, hnone⟩ | ⟨⟨s, hs⟩, hgives⟩)
    · exact hnone
    · obtain ⟨value, -, hwidens⟩ := hgives s hs
      exact absurd rfl hwidens.ne_void
  · intro hnone
    exact Or.inl ⟨rfl, hnone⟩

theorem returns_iff (h : type ≠ "void") :
    Returns own type ↔ (∃ s, own s) ∧ ∀ s, own s → Gives s type :=
  or_iff_right fun hvoid => h hvoid.1

theorem forall_not_returns_iff :
    (∀ type, ¬ Returns own type) ↔
      (∃ s, own s ∧ returned? s ≠ none) ∧ ∀ type, ∃ s, own s ∧ ¬ Gives s type := by
  constructor
  · intro hno
    obtain ⟨s, hs⟩ := not_forall.1 fun hnone => hno "void" (returns_void_iff.2 hnone)
    obtain ⟨hown, hvalue⟩ := Classical.not_imp.1 hs
    refine ⟨⟨s, hown, hvalue⟩, fun type => ?_⟩
    obtain ⟨s', hs'⟩ := not_forall.1 fun hall => hno type (Or.inr ⟨⟨s, hown⟩, hall⟩)
    exact ⟨s', Classical.not_imp.1 hs'⟩
  · rintro ⟨⟨s, hown, hvalue⟩, hdiffer⟩ type (⟨-, hnone⟩ | ⟨-, hall⟩)
    · exact hvalue (hnone s hown)
    · obtain ⟨s', hown', hgives⟩ := hdiffer type
      exact hgives (hall s' hown')

end Returns

theorem blockType?_eq_some_iff {body : Node t} {type : String} :
    blockType? body = some type ↔ Returns (OwnReturn body) type := by
  unfold blockType? Returns
  simp only [← mem_returnStatements_iff]
  generalize returnStatements body = statements
  rw [forall_gives_iff]
  split
  next hvalues =>
    have hnone : ∀ s ∈ statements, returned? s = none := List.filterMap_eq_nil_iff.1 hvalues
    constructor
    · intro h
      cases h
      exact Or.inl ⟨rfl, hnone⟩
    · rintro (⟨rfl, -⟩ | ⟨⟨s, hs⟩, hlength, -⟩)
      · rfl
      · exact absurd (length_values_lt_iff.2 ⟨s, hs, hnone s hs⟩) hlength
  next first rest hvalues =>
    have hfirst : first ∈ statements.filterMap returned? := hvalues ▸ List.mem_cons_self
    obtain ⟨s, hs, hvalue⟩ := List.mem_filterMap.1 hfirst
    have hvoid : ¬ ∀ s ∈ statements, returned? s = none := by
      intro hnone
      rw [hnone s hs] at hvalue
      cases hvalue
    rw [or_iff_right fun h => hvoid h.2, and_iff_right ⟨s, hs⟩]
    split
    next hlength => simp [hlength]
    next hlength =>
      rw [and_iff_right hlength]
      -- The first value decides which type it can be.
      by_cases htype : widened? first = some type
      · rw [htype]
        simp only [List.all_eq_true, beq_iff_eq, Option.ite_none_right_eq_some, and_true]
      · constructor
        · intro h
          split at h
          next => cases h
          next type₀ htype₀ =>
            split at h
            next => exact absurd (htype₀.trans h) htype
            next => cases h
        · intro hall
          exact absurd (hall first hfirst) htype

/-! ## One statement after another -/

/-- Reads statements one by one, keeping the type of the values so far and whether a statement had none,
and gives up at the first value that is no literal or of another type. -/
def gather : (found : Option String) → (bare : Bool) → (statements : List (Node t)) → Option String
  | none, _, [] => some "void"
  | some type, false, [] => some type
  | some _, true, [] => none
  | found, bare, s :: rest =>
    match returned? s with
    | none => gather found true rest
    | some value =>
      match widened? value with
      | none => none
      | some type => if found.any (· != type) then none else gather (some type) bare rest

section Gather

variable {found : Option String} {bare : Bool} {s : Node t} {rest : List (Node t)}

theorem gather_cons_of_none (h : returned? s = none) :
    gather found bare (s :: rest) = gather found true rest := by
  rw [gather, h]

theorem gather_cons_of_unknown {value : Node t} (hvalue : returned? s = some value)
    (htype : widened? value = none) : gather found bare (s :: rest) = none := by
  rw [gather, hvalue]
  dsimp only
  rw [htype]

theorem gather_cons_of_gives {type : String} (h : Gives s type) :
    gather found bare (s :: rest) =
      if found.any (· != type) then none else gather (some type) bare rest := by
  obtain ⟨value, hvalue, hwidens⟩ := h
  rw [gather, hvalue]
  dsimp only
  rw [widened?_eq_some_iff.2 hwidens]

end Gather

/-- Once a type was found, every statement has to give it. -/
theorem gather_some_eq_some_iff {statements : List (Node t)} {bare : Bool} {found type : String} :
    gather (some found) bare statements = some type ↔
      type = found ∧ bare = false ∧ ∀ s ∈ statements, Gives s found := by
  induction statements generalizing bare with
  | nil =>
    cases bare with
    | false => simp [gather, eq_comm]
    | true => simp [gather]
  | cons s rest ih =>
    rcases returned?_cases s with hnone | ⟨given, hgives⟩ | ⟨value, hvalue, htype⟩
    · rw [gather_cons_of_none hnone, ih]
      constructor
      · rintro ⟨-, hfalse, -⟩
        cases hfalse
      · rintro ⟨-, -, hall⟩
        exact absurd hnone (hall s List.mem_cons_self).ne_none
    · rw [gather_cons_of_gives hgives]
      by_cases hsame : given = found
      · subst hsame
        rw [if_neg (by simp), ih, List.forall_mem_cons]
        exact ⟨fun h => ⟨h.1, h.2.1, hgives, h.2.2⟩, fun h => ⟨h.1, h.2.1, h.2.2.2⟩⟩
      · rw [if_pos (by simpa using Ne.symm hsame)]
        constructor
        · intro h
          cases h
        · rintro ⟨-, -, hall⟩
          exact absurd (hgives.eq (hall s List.mem_cons_self)) hsame
    · rw [gather_cons_of_unknown hvalue htype]
      constructor
      · intro h
        cases h
      · rintro ⟨-, -, hall⟩
        exact absurd (hall s List.mem_cons_self) (not_gives hvalue (by rw [htype]; exact nofun))

/-- Before that, no statement has a value or all give the type. -/
theorem gather_none_eq_some_iff {statements : List (Node t)} {bare : Bool} {type : String} :
    gather none bare statements = some type ↔
      (type = "void" ∧ ∀ s ∈ statements, returned? s = none) ∨
        bare = false ∧ (∃ s, s ∈ statements) ∧ ∀ s ∈ statements, Gives s type := by
  induction statements generalizing bare with
  | nil => simp [gather, eq_comm]
  | cons s rest ih =>
    rw [List.forall_mem_cons, List.forall_mem_cons]
    rcases returned?_cases s with hnone | ⟨given, hgives⟩ | ⟨value, hvalue, htype⟩
    · rw [gather_cons_of_none hnone, ih]
      constructor
      · rintro (⟨htype, hall⟩ | ⟨hfalse, -⟩)
        · exact Or.inl ⟨htype, hnone, hall⟩
        · cases hfalse
      · rintro (⟨htype, -, hall⟩ | ⟨-, -, hgives, -⟩)
        · exact Or.inl ⟨htype, hall⟩
        · exact absurd hnone hgives.ne_none
    · rw [gather_cons_of_gives hgives, if_neg (by simp), gather_some_eq_some_iff]
      constructor
      · rintro ⟨rfl, hbare, hall⟩
        exact Or.inr ⟨hbare, ⟨s, List.mem_cons_self⟩, hgives, hall⟩
      · rintro (⟨-, hnone, -⟩ | ⟨hbare, -, hgives', hall⟩)
        · exact absurd hnone hgives.ne_none
        · cases hgives'.eq hgives
          exact ⟨rfl, hbare, hall⟩
    · rw [gather_cons_of_unknown hvalue htype]
      constructor
      · intro h
        cases h
      · rintro (⟨-, hnone, -⟩ | ⟨-, -, hgives, -⟩)
        · rw [hvalue] at hnone
          cases hnone
        · exact absurd hgives (not_gives hvalue (by rw [htype]; exact nofun))

/-- What comes out depends on which statements are in the list, and on nothing else about it. -/
theorem gather_eq_some_iff {own : Node t → Prop} {statements : List (Node t)} {type : String}
    (h : ∀ s, s ∈ statements ↔ own s) :
    gather none false statements = some type ↔ Returns own type := by
  rw [gather_none_eq_some_iff, and_iff_right (Eq.refl false), Returns]
  simp only [h]

/-! ## The search in one loop -/

/-- A search in progress: the nodes still to be looked at, the last one first, the type of the values so
far, and whether a statement had none. -/
structure Scan (t : SyntaxTree) where
  stack : List (Node t)
  found : Option String
  bare : Bool

namespace Scan

/-- A function or class is passed by, but not the node at which the search starts. -/
def passedBy (body n : Node t) : Bool := n != body && isNestedScope n

/-- Reads a return statement, which is no longer on the stack. A value that does not fit ends the search
without an answer. -/
def read (statement : Node t) (s : Scan t) : Option (Scan t) :=
  match returned? statement with
  | none => some { s with bare := true }
  | some value =>
    match widened? value with
    | none => none
    | some type => if s.found.any (· != type) then none else some { s with found := some type }

/-- Looks at the last node of the stack. -/
def step (body : Node t) : Scan t → Option (Scan t)
  | ⟨[], found, bare⟩ => some ⟨[], found, bare⟩
  | ⟨n :: rest, found, bare⟩ =>
    if passedBy body n then some ⟨rest, found, bare⟩
    else if n.kind == "return_statement" then read n ⟨rest, found, bare⟩
    else some ⟨n.namedChildren.reverse ++ rest, found, bare⟩

/-- Looks at so many nodes. -/
def run (body : Node t) : (steps : Nat) → Scan t → Option (Scan t)
  | 0, s => some s
  | steps + 1, s => (step body s).bind (run body steps)

/-- The type that a search which has ended has found. -/
def answer (s : Scan t) : Option String :=
  match s.found, s.bare with
  | none, _ => some "void"
  | some type, false => some type
  | some _, true => none

/-- The nodes that are put on the stack for a node. -/
def followers (body n : Node t) : List (Node t) :=
  if passedBy body n || n.kind == "return_statement" then [] else n.namedChildren.reverse

theorem descends_followers (body : Node t) : Node.Descends (followers body) :=
  Node.descends_reversed.cut _

theorem kind_ne_of_passedBy {body n : Node t} (h : passedBy body n = true) :
    n.kind ≠ "return_statement" := by
  have hscope : isNestedScope n = true := (Bool.and_eq_true_iff.1 h).2
  intro hkind
  rw [isNestedScope, Node.isFunction, Node.isOneOf, Node.isOneOf, hkind] at hscope
  exact absurd hscope (by decide)

theorem not_passedBy_of_owned {body n : Node t} (h : Owned body n) : passedBy body n = false := by
  cases h with
  | body => rw [passedBy, bne_self_eq_false, Bool.false_and]
  | child _ _ _ within => rw [passedBy, within, Bool.and_false]

/-- The search comes to the nodes of the function, and to some that it passes by. -/
theorem owned_of_mem_reach {body n : Node t} (h : n ∈ body.reach (followers body)) :
    passedBy body n = true ∨ Owned body n := by
  rw [Node.mem_reach_iff (descends_followers body)] at h
  induction h with
  | refl => exact Or.inr .body
  | @tail a c _ hstep ih =>
    unfold followers at hstep
    split at hstep
    next => cases hstep
    next hopen =>
      simp only [Bool.or_eq_true, beq_iff_eq, not_or] at hopen
      have howned : Owned body a := ih.resolve_left hopen.1
      cases hc : passedBy body c with
      | true => exact Or.inl rfl
      | false =>
        rw [passedBy, Bool.and_eq_false_iff, bne_eq_false_iff_eq] at hc
        rcases hc with rfl | within
        · exact Or.inr .body
        · exact Or.inr (.child howned hopen.2 (List.mem_reverse.1 hstep) within)

theorem mem_reach_of_owned {body n : Node t} (h : Owned body n) :
    n ∈ body.reach (followers body) := by
  rw [Node.mem_reach_iff (descends_followers body)]
  induction h with
  | body => exact .refl
  | @child n c owned other child _ ih =>
    refine ih.tail ?_
    rw [followers, if_neg (by simp [not_passedBy_of_owned owned, other])]
    exact List.mem_reverse.2 child

/-- The return statements among some nodes. -/
def returnsAmong (nodes : List (Node t)) : List (Node t) :=
  nodes.filter (·.kind == "return_statement")

theorem returnsAmong_cons_of_eq {n : Node t} (h : n.kind = "return_statement") (later : List (Node t)) :
    returnsAmong (n :: later) = n :: returnsAmong later :=
  List.filter_cons_of_pos (by simpa using h)

theorem returnsAmong_cons_of_ne {n : Node t} (h : n.kind ≠ "return_statement") (later : List (Node t)) :
    returnsAmong (n :: later) = returnsAmong later :=
  List.filter_cons_of_neg (by simpa using h)

/-- The return statements that the search comes to are those of the function. -/
theorem mem_returnsAmong_reach_iff {body s : Node t} :
    s ∈ returnsAmong (body.reach (followers body)) ↔ OwnReturn body s := by
  rw [returnsAmong, List.mem_filter, beq_iff_eq]
  constructor
  · intro h
    exact ⟨(owned_of_mem_reach h.1).resolve_left fun hpassed => kind_ne_of_passedBy hpassed h.2, h.2⟩
  · intro h
    exact ⟨mem_reach_of_owned h.owned, h.kind⟩

/-- Reading a statement leaves the stack alone, and is the first step of reading a list that starts with
it. -/
theorem read_cases (statement : Node t) (s : Scan t) :
    (∃ s', read statement s = some s' ∧ s'.stack = s.stack ∧
      ∀ rest, gather s.found s.bare (statement :: rest) = gather s'.found s'.bare rest) ∨
    (read statement s = none ∧ ∀ rest, gather s.found s.bare (statement :: rest) = none) := by
  unfold read
  rcases returned?_cases statement with hnone | ⟨type, hgives⟩ | ⟨value, hvalue, htype⟩
  · rw [hnone]
    exact Or.inl ⟨_, rfl, rfl, fun rest => gather_cons_of_none hnone⟩
  · have hgather : ∀ rest, gather s.found s.bare (statement :: rest) =
        if s.found.any (· != type) then none else gather (some type) s.bare rest :=
      fun rest => gather_cons_of_gives hgives
    obtain ⟨value, hvalue, hwidens⟩ := hgives
    rw [hvalue]
    dsimp only
    rw [widened?_eq_some_iff.2 hwidens]
    dsimp only
    split
    next hother => exact Or.inr ⟨rfl, fun rest => by rw [hgather, if_pos hother]⟩
    next hsame => exact Or.inl ⟨_, rfl, rfl, fun rest => by rw [hgather, if_neg hsame]⟩
  · rw [hvalue]
    dsimp only
    rw [htype]
    exact Or.inr ⟨rfl, fun rest => gather_cons_of_unknown hvalue htype⟩

/-- One node: the followers take its place on the stack, and a statement of the function is read. -/
theorem step_cases (body n : Node t) (rest : List (Node t)) (found : Option String) (bare : Bool) :
    (∃ s, step body ⟨n :: rest, found, bare⟩ = some s ∧ s.stack = followers body n ++ rest ∧
      ∀ later, gather found bare (returnsAmong (n :: later)) =
        gather s.found s.bare (returnsAmong later)) ∨
    (step body ⟨n :: rest, found, bare⟩ = none ∧
      ∀ later, gather found bare (returnsAmong (n :: later)) = none) := by
  rw [step, followers]
  cases hpassed : passedBy body n with
  | true =>
    have hskip := returnsAmong_cons_of_ne (kind_ne_of_passedBy hpassed)
    exact Or.inl ⟨⟨rest, found, bare⟩, rfl, rfl, fun later => by rw [hskip]⟩
  | false =>
    by_cases hkind : n.kind = "return_statement"
    · simp only [returnsAmong_cons_of_eq hkind]
      rw [hkind]
      rcases read_cases n ⟨rest, found, bare⟩ with ⟨s, hs, hstack, hgather⟩ | ⟨hs, hgather⟩
      · exact Or.inl ⟨s, hs, hstack, fun later => hgather _⟩
      · exact Or.inr ⟨hs, fun later => hgather _⟩
    · have hskip := returnsAmong_cons_of_ne hkind
      rw [beq_eq_false_iff_ne.2 hkind]
      exact Or.inl ⟨⟨n.namedChildren.reverse ++ rest, found, bare⟩, rfl, rfl,
        fun later => by rw [hskip]⟩

theorem run_of_stack_nil (body : Node t) (found : Option String) (bare : Bool) :
    ∀ steps : Nat, run body steps ⟨[], found, bare⟩ = some ⟨[], found, bare⟩
  | 0 => rfl
  | steps + 1 => by
    rw [run, step, Option.bind_some, run_of_stack_nil body found bare steps]

/-- Where a walk to the followers empties its stack, so does the search, unless it was given up, and it
has read the return statements of the walk one by one. -/
theorem run_of_pending_eq_nil (body : Node t) :
    ∀ (steps : Nat) (s : Scan t), Node.pending (followers body) steps s.stack = [] →
      (∀ s', run body steps s = some s' → s'.stack = []) ∧
      (run body steps s).bind answer =
        gather s.found s.bare (returnsAmong (Node.visit (followers body) steps s.stack))
  | steps, ⟨[], found, bare⟩, _ => by
    have hvisit : Node.visit (followers body) steps [] = [] := by cases steps <;> rfl
    rw [run_of_stack_nil, hvisit]
    refine ⟨fun s' hs => ?_, ?_⟩
    · cases hs
      rfl
    · cases found <;> cases bare <;> rfl
  | 0, ⟨n :: rest, found, bare⟩, h => by cases h
  | steps + 1, ⟨n :: rest, found, bare⟩, h => by
    rw [Node.pending] at h
    rw [run, Node.visit]
    rcases step_cases body n rest found bare with ⟨s, hs, hstack, hgather⟩ | ⟨hs, hgather⟩
    · rw [hs, Option.bind_some, hgather, ← hstack]
      rw [← hstack] at h
      exact run_of_pending_eq_nil body steps s h
    · rw [hs, hgather]
      exact ⟨fun s' hs' => (by cases hs'), rfl⟩

/-- **The search in one loop.** It looks at the nodes of the stack, the last one first, passes the
functions and classes inside by, reads the return statements it comes to, and gives up at a value that
does not fit. In as many steps as the tree has nodes it has emptied its stack or given up, and its answer
is the type of the body. -/
theorem run_eq (body : Node t) {steps : Nat} (h : t.size ≤ steps) :
    (∀ s, run body steps ⟨[body], none, false⟩ = some s → s.stack = []) ∧
    (run body steps ⟨[body], none, false⟩).bind answer = blockType? body := by
  have hdescends := descends_followers body
  have hseen := Nat.le_trans (Node.length_reach_le_size hdescends body) h
  obtain ⟨hstack, hanswer⟩ := run_of_pending_eq_nil body steps ⟨[body], none, false⟩
    ((Node.pending_singleton_eq_nil_iff hdescends body steps).2 hseen)
  refine ⟨hstack, Option.ext fun type => ?_⟩
  rw [hanswer, Node.visit_singleton_eq hdescends hseen, blockType?_eq_some_iff]
  exact gather_eq_some_iff fun s => mem_returnsAmong_reach_iff

end Scan

/-! ## The type of a function -/

/-- A function whose body is a block, and no generator. -/
structure PlainFunction (func body : Node t) : Prop where
  function : func.isFunction = true
  kind : func.kind ≠ "generator_function_declaration"
  star : func.hasToken "*" = false
  child : func.child? "body" = some body
  block : body.kind = "statement_block"

/-- What a call of the function has, if its statements return this type. -/
def called (func : Node t) (type : String) : TypeInfo :=
  ⟨if func.hasToken "async" then "Promise<" ++ type ++ ">" else type⟩

theorem called_injective (func : Node t) : Function.Injective (called func) := by
  intro a b h
  unfold called at h
  split at h
  next => simpa using h
  next => simpa using h

theorem PlainFunction.oracle_eq {func body : Node t} (h : PlainFunction func body) :
    oracle func = (blockType? body).map (called func) := by
  have hreturn : returnType? func =
      (blockType? body).map fun type =>
        if func.hasToken "async" then "Promise<" ++ type ++ ">" else type := by
    unfold returnType?
    rw [if_neg (by simp [h.kind, h.star]), h.child]
    simp only [Option.bind_eq_bind, Option.bind_some, h.block, beq_self_eq_true, if_true]
    cases blockType? body <;> rfl
  unfold oracle
  rw [if_pos h.function, hreturn, Option.map_eq_map, Option.map_map]
  rfl

theorem PlainFunction.oracle_eq_some_iff {func body : Node t} {type : String}
    (h : PlainFunction func body) :
    oracle func = some (called func type) ↔ Returns (OwnReturn body) type := by
  rw [h.oracle_eq, Option.map_eq_some_iff, ← blockType?_eq_some_iff]
  constructor
  · rintro ⟨type', htype, heq⟩
    rwa [← called_injective func heq]
  · intro htype
    exact ⟨type, htype, rfl⟩

theorem PlainFunction.oracle_eq_none_iff {func body : Node t} (h : PlainFunction func body) :
    oracle func = none ↔ ∀ type, ¬ Returns (OwnReturn body) type := by
  rw [h.oracle_eq, Option.map_eq_none_iff, Option.eq_none_iff_forall_ne_some]
  exact forall_congr' fun type => not_congr blockType?_eq_some_iff

theorem PlainFunction.oracle_eq_gather {func body : Node t} (h : PlainFunction func body)
    {statements : List (Node t)} (hmem : ∀ s, s ∈ statements ↔ OwnReturn body s) :
    oracle func = (gather none false statements).map (called func) := by
  have hblock : blockType? body = gather none false statements := by
    refine Option.ext fun type => ?_
    rw [blockType?_eq_some_iff, gather_eq_some_iff hmem]
  rw [h.oracle_eq, hblock]

/-- The oracle's answer is that of the search in one loop. -/
theorem PlainFunction.oracle_eq_scan {func body : Node t} (h : PlainFunction func body) {steps : Nat}
    (hsteps : t.size ≤ steps) :
    oracle func =
      ((Scan.run body steps ⟨[body], none, false⟩).bind Scan.answer).map (called func) := by
  rw [h.oracle_eq, (Scan.run_eq body hsteps).2]

/-- **A function's type depends on the set of its own return statements alone.** It is `void` when none
of them has a value, the one type that all of them give when there are any and each returns a literal,
and untold otherwise; an `async` function promises it. So reading the statements one by one, giving up at
the first that does not fit, comes to the same answer for any list of them, in any order. However the
search takes the children of a node, its stack runs empty within as many steps as the tree has nodes, and
the statements it met are those. -/
theorem function_type_from_own_returns {func body : Node t} (h : PlainFunction func body) :
    (oracle func = some (called func "void") ↔ ∀ s, OwnReturn body s → returned? s = none) ∧
    (∀ type, type ≠ "void" →
      (oracle func = some (called func type) ↔
        (∃ s, OwnReturn body s) ∧ ∀ s, OwnReturn body s → Gives s type)) ∧
    (oracle func = none ↔
      (∃ s, OwnReturn body s ∧ returned? s ≠ none) ∧
        ∀ type, ∃ s, OwnReturn body s ∧ ¬ Gives s type) ∧
    (∀ statements : List (Node t), (∀ s, s ∈ statements ↔ OwnReturn body s) →
      oracle func = (gather none false statements).map (called func)) ∧
    ∀ next : Node t → List (Node t), (∀ n, (next n).Perm (withinFunction n)) →
      Node.pending next t.size [body] = [] ∧
      ∀ s, s ∈ (body.reach next).filter (·.kind == "return_statement") ↔ OwnReturn body s := by
  refine ⟨?_, fun type hvoid => ?_, ?_, fun statements hmem => h.oracle_eq_gather hmem,
    fun next hperm => ?_⟩
  · rw [h.oracle_eq_some_iff, returns_void_iff]
  · rw [h.oracle_eq_some_iff, returns_iff hvoid]
  · rw [h.oracle_eq_none_iff, forall_not_returns_iff]
  · exact ⟨Node.pending_size_eq_nil (descends_withinFunction.of_perm hperm) body,
      fun s => mem_filter_reach_iff hperm⟩

/-! The text `async function f() { { return 1 } function g() { return "" } return -2 }`. The statement in
`g` is none of `f`'s. -/

def nestedEntries : Array Tree.Entry :=
  #[⟨none, "program", none, true, 0, 72⟩,
    ⟨some 0, "function_declaration", none, true, 0, 72⟩,
    ⟨some 1, "async", none, false, 0, 5⟩,
    ⟨some 1, "function", none, false, 6, 14⟩,
    ⟨some 1, "identifier", some "name", true, 15, 16⟩,
    ⟨some 1, "formal_parameters", some "parameters", true, 16, 18⟩,
    ⟨some 5, "(", none, false, 16, 17⟩,
    ⟨some 5, ")", none, false, 17, 18⟩,
    ⟨some 1, "statement_block", some "body", true, 19, 72⟩,
    ⟨some 8, "\x7b", none, false, 19, 20⟩,
    ⟨some 8, "statement_block", none, true, 21, 33⟩,
    ⟨some 10, "\x7b", none, false, 21, 22⟩,
    ⟨some 10, "return_statement", none, true, 23, 31⟩,
    ⟨some 12, "return", none, false, 23, 29⟩,
    ⟨some 12, "number", none, true, 30, 31⟩,
    ⟨some 10, "\x7d", none, false, 32, 33⟩,
    ⟨some 8, "function_declaration", none, true, 34, 60⟩,
    ⟨some 16, "function", none, false, 34, 42⟩,
    ⟨some 16, "identifier", some "name", true, 43, 44⟩,
    ⟨some 16, "formal_parameters", some "parameters", true, 44, 46⟩,
    ⟨some 19, "(", none, false, 44, 45⟩,
    ⟨some 19, ")", none, false, 45, 46⟩,
    ⟨some 16, "statement_block", some "body", true, 47, 60⟩,
    ⟨some 22, "\x7b", none, false, 47, 48⟩,
    ⟨some 22, "return_statement", none, true, 49, 58⟩,
    ⟨some 24, "return", none, false, 49, 55⟩,
    ⟨some 24, "string", none, true, 56, 58⟩,
    ⟨some 26, "\"", none, false, 56, 57⟩,
    ⟨some 26, "\"", none, false, 57, 58⟩,
    ⟨some 22, "\x7d", none, false, 59, 60⟩,
    ⟨some 8, "return_statement", none, true, 61, 70⟩,
    ⟨some 30, "return", none, false, 61, 67⟩,
    ⟨some 30, "unary_expression", none, true, 68, 70⟩,
    ⟨some 32, "-", some "operator", false, 68, 69⟩,
    ⟨some 32, "number", some "argument", true, 69, 70⟩,
    ⟨some 8, "\x7d", none, false, 71, 72⟩]

def nestedTree : SyntaxTree where
  source := "async function f() \x7b \x7b return 1 \x7d function g() \x7b return \"\" \x7d return -2 \x7d"
  entries := nestedEntries
  childIds := Tree.childLists nestedEntries
  coherent := Tree.firstError?_eq_none_iff.1 (by decide +kernel)
  nonempty := by decide
  childIds_eq := rfl

/-- The outer function. -/
def outerFunction : Node nestedTree := ⟨1, by decide⟩

/-- Its body. -/
def outerBody : Node nestedTree := ⟨8, by decide⟩

/-- The statement in the inner block. -/
def returnsOne : Node nestedTree := ⟨12, by decide⟩

/-- The last statement. -/
def returnsMinusTwo : Node nestedTree := ⟨30, by decide⟩

theorem plainFunction_outerFunction : PlainFunction outerFunction outerBody :=
  ⟨by decide +kernel, by decide +kernel, by decide +kernel, by decide +kernel, by decide +kernel⟩

theorem returnStatements_outerBody : returnStatements outerBody = [returnsOne, returnsMinusTwo] := by
  decide +kernel

theorem gives_returnsOne : Gives returnsOne "number" :=
  ⟨⟨14, by decide⟩, by decide +kernel, .literal (by decide +kernel)⟩

theorem gives_returnsMinusTwo : Gives returnsMinusTwo "number" := by
  have hoperand : Widens (⟨34, by decide⟩ : Node nestedTree) "number" := .literal (by decide +kernel)
  exact ⟨⟨32, by decide⟩, by decide +kernel, .sign (by decide +kernel) (by decide +kernel)
    (by decide +kernel) (Or.inl (by decide +kernel)) hoperand⟩

/-- The outer function promises a number. -/
theorem async_function_promises_number :
    PlainFunction outerFunction outerBody ∧ oracle outerFunction = some ⟨"Promise<number>"⟩ := by
  refine ⟨plainFunction_outerFunction, ?_⟩
  have hcalled : called outerFunction "number" = ⟨"Promise<number>"⟩ := by decide +kernel
  rw [← hcalled]
  refine ((function_type_from_own_returns plainFunction_outerFunction).2.1 "number" (by decide)).2 ?_
  simp only [← mem_returnStatements_iff, returnStatements_outerBody, List.forall_mem_cons]
  exact ⟨⟨returnsOne, List.mem_cons_self⟩, gives_returnsOne, gives_returnsMinusTwo, nofun⟩

end TypeLint.LocalTypes
