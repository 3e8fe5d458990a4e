import TypeLint.Pattern.Basic

/-!
# What a pattern says of a node

`Pattern.eval` threads one capture set through the whole pattern and cuts it back in the middle, but
no test ever reads it. `Pattern.sat` is the property of a node that a pattern stands for, written
without captures, and `eval_fst` says that it is the verdict of every run, whatever was bound before.

The induction is over patterns and lists of patterns together. The one case with a loop of its own is
the quantifier, where the hits are counted along the children (`foldl_children`).

Since the verdict is known beforehand, a run can be told by it: `eval_children`, `eval_capture`,
`evalAll_cons` and `evalAny_cons` give the captures after each step without a look at its answer.
`Pattern.and` makes a conjunction longer instead of nesting it, which changes neither the verdict nor
what is bound (`eval_and`). `attempt_verdict_eq_sat` puts the two together.
-/

namespace TypeLint.Pattern

variable {t : SyntaxTree}

mutual

/-- The node is as the pattern says. -/
def sat : Pattern → Node t → Bool
  | .any, _ => true
  | .kind k, n => n.kind == k
  | .text s, n => n.text == s
  | .token s, n => n.hasToken s
  | .field name p, n =>
    match n.child? name with
    | some child => sat p child
    | none => false
  | .parent p, n =>
    match n.parent with
    | some above => sat p above
    | none => false
  | .children q p, n =>
    q.accepts (n.significantChildren.countP fun child => sat p child) n.significantChildren.length
  | .all ps, n => satAll ps n
  | .anyOf ps, n => satAny ps n
  | .not p, n => !sat p n
  | .holds f, n => f n
  | .capture _ p, n => sat p n

/-- The node is as every pattern says. -/
def satAll : List Pattern → Node t → Bool
  | [], _ => true
  | p :: ps, n => sat p n && satAll ps n

/-- The node is as some pattern says. -/
def satAny : List Pattern → Node t → Bool
  | [], _ => false
  | p :: ps, n => sat p n || satAny ps n

end

theorem settle_fst (before : Captures t) (result : Bool × Captures t) :
    (settle before result).1 = result.1 := by
  obtain ⟨verdict, c⟩ := result
  cases verdict <;> rfl

/-- Going along the children counts those that are hit, and hands the captures on. -/
theorem foldl_children {run : Node t → Captures t → Bool × Captures t} {hit : Node t → Bool}
    (h : ∀ n c, (run n c).1 = hit n) :
    ∀ (below : List (Node t)) (hits : Nat) (c : Captures t),
      below.foldl
        (fun (hits, c) child =>
          match run child c with
          | (true, c) => (hits + 1, c)
          | (false, c) => (hits, c))
        (hits, c) =
      (hits + below.countP hit, below.foldl (fun c child => (run child c).2) c)
  | [], _, _ => rfl
  | child :: below, hits, c => by
    rw [List.foldl_cons, List.foldl_cons, List.countP_cons]
    have hchild := h child c
    simp only
    split
    next c' heq =>
      rw [heq] at hchild
      rw [heq, foldl_children h below (hits + 1) c', ← hchild, if_pos rfl]
      congr 1
      omega
    next c' heq =>
      rw [heq] at hchild
      rw [heq, foldl_children h below hits c', ← hchild, if_neg Bool.false_ne_true]
      rfl

mutual

/-- The verdict of a run is what the pattern says of the node, whatever was bound before. -/
theorem eval_fst : ∀ (p : Pattern) (n : Node t) (c : Captures t), (eval p n c).1 = sat p n
  | .any, _, _ => by rw [eval, sat]
  | .kind _, _, _ => by rw [eval, sat]
  | .text _, _, _ => by rw [eval, sat]
  | .token _, _, _ => by rw [eval, sat]
  | .field name p, n, c => by
    rw [eval, sat]
    cases n.child? name with
    | some child => exact (settle_fst c _).trans (eval_fst p child c)
    | none => rfl
  | .parent p, n, c => by
    rw [eval, sat]
    cases n.parent with
    | some above => exact (settle_fst c _).trans (eval_fst p above c)
    | none => rfl
  | .children q p, n, c => by
    rw [eval, sat]
    have hrun : ∀ child c, (settle c (eval p child c)).1 = sat p child := fun child c => by
      rw [settle_fst, eval_fst p child c]
    have hloop := foldl_children hrun n.significantChildren 0 c
    rw [Nat.zero_add] at hloop
    exact congrArg (fun run => q.accepts run.1 n.significantChildren.length) hloop
  | .all ps, n, c => by rw [eval, sat, evalAll_fst ps n c]
  | .anyOf ps, n, c => by rw [eval, sat, evalAny_fst ps n c]
  | .not p, n, c => by rw [eval, sat, eval_fst p n .empty]
  | .holds _, _, _ => by rw [eval, sat]
  | .capture name p, n, c => by
    rw [eval, sat]
    have hp : (settle c (eval p n c)).1 = sat p n := by rw [settle_fst, eval_fst p n c]
    split
    next c' heq => rw [← hp, heq]
    next c' heq => rw [← hp, heq]

theorem evalAll_fst : ∀ (ps : List Pattern) (n : Node t) (c : Captures t),
    (evalAll ps n c).1 = satAll ps n
  | [], _, _ => by rw [evalAll, satAll]
  | p :: ps, n, c => by
    rw [evalAll, satAll]
    have hp : (settle c (eval p n c)).1 = sat p n := by rw [settle_fst, eval_fst p n c]
    split
    next c' heq => rw [← hp, heq, evalAll_fst ps n c', Bool.true_and]
    next c' heq => rw [← hp, heq, Bool.false_and]

theorem evalAny_fst : ∀ (ps : List Pattern) (n : Node t) (c : Captures t),
    (evalAny ps n c).1 = satAny ps n
  | [], _, _ => by rw [evalAny, satAny]
  | p :: ps, n, c => by
    rw [evalAny, satAny]
    have hp : (settle c (eval p n c)).1 = sat p n := by rw [settle_fst, eval_fst p n c]
    split
    next c' heq => rw [← hp, heq, Bool.true_or]
    next c' heq => rw [← hp, heq, evalAny_fst ps n c', Bool.false_or]

end

theorem attempt_fst (p : Pattern) (n : Node t) (c : Captures t) : (p.attempt n c).1 = p.sat n :=
  (settle_fst c _).trans (eval_fst p n c)

/-! ## A run, step by step -/

/-- An attempt, by the verdict that it will have. -/
theorem attempt_eq (p : Pattern) (n : Node t) (c : Captures t) :
    p.attempt n c = (p.sat n, (p.attempt n c).2) := Prod.ext (attempt_fst p n c) rfl

theorem eval_children (q : Quantifier) (p : Pattern) (n : Node t) (c : Captures t) :
    (eval (.children q p) n c).2 =
      n.significantChildren.foldl (fun c child => (p.attempt child c).2) c := by
  rw [eval]
  exact congrArg Prod.snd (foldl_children (attempt_fst p) n.significantChildren 0 c)

theorem eval_capture (name : String) (p : Pattern) (n : Node t) (c : Captures t) :
    (eval (.capture name p) n c).2 =
      if p.sat n then (p.attempt n c).2.bindNode name n else (p.attempt n c).2 := by
  rw [eval]
  show (match p.attempt n c with
    | (true, c) => (true, c.bindNode name n)
    | (false, c) => (false, c)).2 = _
  rw [attempt_eq]
  cases p.sat n <;> rfl

theorem evalAll_cons (p : Pattern) (ps : List Pattern) (n : Node t) (c : Captures t) :
    evalAll (p :: ps) n c =
      if p.sat n then evalAll ps n (p.attempt n c).2 else (false, (p.attempt n c).2) := by
  rw [evalAll]
  show (match p.attempt n c with
    | (true, c) => evalAll ps n c
    | (false, c) => (false, c)) = _
  rw [attempt_eq]
  cases p.sat n <;> rfl

theorem evalAny_cons (p : Pattern) (ps : List Pattern) (n : Node t) (c : Captures t) :
    evalAny (p :: ps) n c =
      if p.sat n then (true, (p.attempt n c).2) else evalAny ps n (p.attempt n c).2 := by
  rw [evalAny]
  show (match p.attempt n c with
    | (true, c) => (true, c)
    | (false, c) => evalAny ps n c) = _
  rw [attempt_eq]
  cases p.sat n <;> rfl

/-! ## Conjunction -/

/-- A conjunction is made longer, or made of two. -/
theorem and_cases (p q : Pattern) :
    (∃ ps, p = .all ps ∧ p.and q = .all (ps ++ [q])) ∨ p.and q = .all [p, q] := by
  cases p with
  | all ps => exact Or.inl ⟨ps, rfl, rfl⟩
  | _ => exact Or.inr rfl

theorem satAll_concat (ps : List Pattern) (q : Pattern) (n : Node t) :
    satAll (ps ++ [q]) n = (satAll ps n && q.sat n) := by
  induction ps with
  | nil => simp only [List.nil_append, satAll, Bool.and_true, Bool.true_and]
  | cons p ps ih => rw [List.cons_append, satAll, satAll, ih, Bool.and_assoc]

theorem sat_and (p q : Pattern) (n : Node t) : (p.and q).sat n = (p.sat n && q.sat n) := by
  rcases and_cases p q with ⟨ps, rfl, hand⟩ | hand
  · rw [hand, sat, sat, satAll_concat]
  · rw [hand, sat, satAll, satAll, satAll, Bool.and_true]

/-- An attempt that passes keeps the captures of the run. -/
theorem attempt_of_sat {p : Pattern} {n : Node t} (h : p.sat n = true) (c : Captures t) :
    p.attempt n c = eval p n c := by
  have hrun : eval p n c = (true, (eval p n c).2) := Prod.ext ((eval_fst p n c).trans h) rfl
  rw [attempt, hrun, settle]

theorem evalAll_singleton (q : Pattern) (n : Node t) (c : Captures t) :
    evalAll [q] n c = q.attempt n c := by
  rw [evalAll_cons, attempt_eq]
  cases q.sat n with
  | true => rw [if_pos rfl, evalAll]
  | false => rw [if_neg Bool.false_ne_true]

/-- The last of several patterns is run on the captures that the others leave, if they pass. -/
theorem evalAll_concat (q : Pattern) (n : Node t) :
    ∀ (ps : List Pattern) (c : Captures t), satAll ps n = true →
      evalAll (ps ++ [q]) n c = q.attempt n (evalAll ps n c).2
  | [], c, _ => by rw [List.nil_append, evalAll_singleton, evalAll]
  | p :: ps, c, h => by
    rw [satAll, Bool.and_eq_true] at h
    rw [List.cons_append, evalAll_cons, evalAll_cons, if_pos h.1, if_pos h.1,
      evalAll_concat q n ps _ h.2]

/-- When the first of two passes, their conjunction runs the second on what the first bound. -/
theorem eval_and {p : Pattern} (q : Pattern) {n : Node t} (c : Captures t) (hp : p.sat n = true) :
    eval (p.and q) n c = q.attempt n (p.attempt n c).2 := by
  rcases and_cases p q with ⟨ps, rfl, hand⟩ | hand
  · have hps : satAll ps n = true := by rwa [sat] at hp
    rw [hand, eval, evalAll_concat q n ps c hps, attempt_of_sat hp, eval]
  · rw [hand, eval, evalAll_cons, if_pos hp, evalAll_singleton]

/-- **The verdict of a pattern is its Boolean meaning.** On every node and every capture set, an
attempt answers what the pattern says of the node, and so does the test without captures. A
conjunction says what its two parts say, and when it passes it leaves what the second part leaves
after the first. -/
theorem attempt_verdict_eq_sat (p q : Pattern) (n : Node t) (c : Captures t) :
    (p.attempt n c).1 = p.accepts n ∧ p.accepts n = p.sat n ∧
    ((p.and q).attempt n c).1 = (p.sat n && q.sat n) ∧
    (((p.and q).attempt n c).1 = true →
      ((p.and q).attempt n c).2 = (q.attempt n (p.attempt n c).2).2) := by
  have haccepts : p.accepts n = p.sat n := attempt_fst p n .empty
  have hverdict : ((p.and q).attempt n c).1 = (p.sat n && q.sat n) :=
    (attempt_fst _ n c).trans (sat_and p q n)
  refine ⟨(attempt_fst p n c).trans haccepts.symm, haccepts, hverdict, fun hpass => ?_⟩
  have hboth := hverdict.symm.trans hpass
  rw [attempt_of_sat ((sat_and p q n).trans hboth)]
  rw [eval_and q c (Bool.and_eq_true_iff.1 hboth).1]

end TypeLint.Pattern
