import TypeLint.Proofs.Analysis.Faultless
import TypeLint.Proofs.Tree.Walks

/-!
# No hit of a safe rule is lost

A rule that breaks down is not tried again, so its later hits are lost. A safe rule never breaks down,
whatever the other rules do. Its position is never among the failed ones, so that it is tried on every
node, and every node has its turn (`SyntaxTree.mem_preorder`): where it captures something there is a
hit (`hit_mem_findMatches`). Every hit of it is judged, and confirmed exactly when it is judged so
(`mem_confirmMatches_iff`).
-/

namespace TypeLint

/-- What one step brings about and every step keeps is there in the end. -/
theorem foldl_of_mem {α β : Type} {f : β → α → β} {P Q : β → Prop} {a : α} :
    ∀ {l : List α}, (∀ b, P b → ∀ x ∈ l, P (f b x)) → (∀ b, Q b → ∀ x ∈ l, Q (f b x)) →
      (∀ b, P b → Q (f b a)) → a ∈ l → ∀ b, P b → Q (l.foldl f b)
  | x :: l, hP, hQ, ha, hmem, b, hb => by
    rw [List.foldl_cons]
    rcases List.mem_cons.1 hmem with rfl | hmem
    · exact List.foldlRecOn l f (ha b hb) fun b hb x hx => hQ b hb x (List.mem_cons_of_mem _ hx)
    · exact foldl_of_mem (fun b hb x hx => hP b hb x (List.mem_cons_of_mem _ hx))
        (fun b hb x hx => hQ b hb x (List.mem_cons_of_mem _ hx)) ha hmem _
        (hP b hb x List.mem_cons_self)

variable {rules : RuleSet} {ctx : FileContext} {rule : Rule} {i : Nat}

/-! ## Finding -/

namespace Matching

/-- A safe rule does not join the failed ones. -/
theorem not_mem_failed_tryRule (hi : rules.rule? i = some rule) (hsafe : rule.Safe)
    {n : Node ctx.tree} {acc : Matching ctx.tree} {e : Rule × Nat} (he : e ∈ rules.rules.zipIdx)
    (h : i ∉ acc.failed) : i ∉ (tryRule ctx n acc e).failed := by
  unfold tryRule
  simp only
  split
  next => exact h
  next =>
    split
    next => exact h
    next => exact h
    next fault hfault =>
      rw [List.mem_cons, not_or]
      refine ⟨fun heq => ?_, h⟩
      have hget : rules.rule? e.2 = some e.1 := List.mem_zipIdx_iff_getElem?.1 he
      rw [← heq, hi] at hget
      obtain ⟨captures, hok⟩ := hsafe.evaluates ctx n
      rw [← Option.some.inj hget, hok] at hfault
      cases hfault

/-- Hits are kept. -/
theorem mem_found_tryRule {n : Node ctx.tree} {acc : Matching ctx.tree} {m : Match ctx.tree}
    (e : Rule × Nat) (h : m ∈ acc.found) : m ∈ (tryRule ctx n acc e).found := by
  unfold tryRule
  simp only
  split
  next => exact h
  next =>
    split
    next => exact h
    next => exact Array.mem_push_of_mem _ h
    next => exact h

theorem hit_mem_tryRule {n : Node ctx.tree} {captures : Captures ctx.tree} {acc : Matching ctx.tree}
    (hok : rule.evaluate ctx n = .ok (some captures)) (h : i ∉ acc.failed) :
    hit rule i n captures ∈ (tryRule ctx n acc (rule, i)).found := by
  unfold tryRule
  simp only [hok]
  rw [if_neg (by rwa [List.contains_iff_mem])]
  exact Array.mem_push_self

theorem not_mem_failed_tryNode (hi : rules.rule? i = some rule) (hsafe : rule.Safe)
    {acc : Matching ctx.tree} (h : i ∉ acc.failed) (n : Node ctx.tree) :
    i ∉ (tryNode rules.rules.zipIdx ctx acc n).failed := by
  refine List.foldlRecOn (motive := fun acc : Matching ctx.tree => i ∉ acc.failed) _ _ h ?_
  intro acc hacc e he
  exact not_mem_failed_tryRule hi hsafe he hacc

theorem mem_found_tryNode {acc : Matching ctx.tree} {m : Match ctx.tree} (h : m ∈ acc.found)
    (n : Node ctx.tree) : m ∈ (tryNode rules.rules.zipIdx ctx acc n).found :=
  List.foldlRecOn (motive := fun acc : Matching ctx.tree => m ∈ acc.found) _ _ h
    fun _ hacc e _ => mem_found_tryRule e hacc

theorem hit_mem_tryNode (hi : rules.rule? i = some rule) (hsafe : rule.Safe) {n : Node ctx.tree}
    {captures : Captures ctx.tree} (hok : rule.evaluate ctx n = .ok (some captures))
    {acc : Matching ctx.tree} (h : i ∉ acc.failed) :
    hit rule i n captures ∈ (tryNode rules.rules.zipIdx ctx acc n).found := by
  have hmem : (rule, i) ∈ rules.rules.zipIdx := List.mem_zipIdx_iff_getElem?.2 hi
  exact foldl_of_mem (P := fun acc : Matching ctx.tree => i ∉ acc.failed)
    (Q := fun acc : Matching ctx.tree => hit rule i n captures ∈ acc.found)
    (fun _ hacc e he => not_mem_failed_tryRule hi hsafe he hacc)
    (fun _ hacc e _ => mem_found_tryRule e hacc) (fun _ hacc => hit_mem_tryRule hok hacc) hmem acc h

end Matching

/-- Where a safe rule captures something there is a hit. -/
theorem hit_mem_findMatches (hi : rules.rule? i = some rule) (hsafe : rule.Safe) {n : Node ctx.tree}
    {captures : Captures ctx.tree} (hok : rule.evaluate ctx n = .ok (some captures)) :
    Matching.hit rule i n captures ∈ (findMatches rules ctx).found :=
  foldl_of_mem (P := fun acc : Matching ctx.tree => i ∉ acc.failed)
    (Q := fun acc : Matching ctx.tree => Matching.hit rule i n captures ∈ acc.found)
    (fun _ hacc k _ => Matching.not_mem_failed_tryNode hi hsafe hacc k)
    (fun _ hacc k _ => Matching.mem_found_tryNode hacc k)
    (fun _ hacc => Matching.hit_mem_tryNode hi hsafe hok hacc) (SyntaxTree.mem_preorder n) _
    List.not_mem_nil

/-! ## Confirming -/

namespace Confirmation

theorem not_mem_failed_take (hi : rules.rule? i = some rule) (hsafe : rule.Safe)
    {acc : Confirmation ctx.tree} (h : i ∉ acc.failed) (m : Match ctx.tree) :
    i ∉ (take rules ctx acc m).failed := by
  unfold take
  split
  next => exact h
  next r hr =>
    split
    next => exact h
    next =>
      split
      next => exact h
      next => exact h
      next => exact h
      next fault hfault =>
        rw [List.mem_cons, not_or]
        refine ⟨fun heq => ?_, h⟩
        rw [← heq, hi] at hr
        obtain ⟨verdict, hok⟩ := exists_judge rules hsafe m
        rw [← Option.some.inj hr, hok] at hfault
        cases hfault

/-- A confirmed hit was confirmed before or is the one that is taken, and that is judged so. -/
theorem mem_confirmed_take_iff {acc : Confirmation ctx.tree} {m k : Match ctx.tree} :
    k ∈ (take rules ctx acc m).confirmed ↔ k ∈ acc.confirmed ∨
      k = m ∧ m.rule ∉ acc.failed ∧
        ∃ r, rules.rule? m.rule = some r ∧ judge rules ctx r m = .ok .confirmed := by
  unfold take
  cases hr : rules.rule? m.rule with
  | none => simp
  | some r =>
    simp only [List.contains_iff_mem]
    by_cases hfailed : m.rule ∈ acc.failed
    · simp [hfailed]
    · rw [if_neg hfailed]
      cases hjudge : judge rules ctx r m with
      | error fault => simp [hjudge]
      | ok verdict => cases verdict <;> simp [hjudge, hfailed]

end Confirmation

/-- The hits of a safe rule that are confirmed are those that are judged so. -/
theorem mem_confirmMatches_iff (hsafe : rule.Safe) {hits : List (Match ctx.tree)}
    {m : Match ctx.tree} (hrule : rules.rule? m.rule = some rule) :
    m ∈ (confirmMatches rules ctx hits).confirmed ↔
      m ∈ hits ∧ Confirmation.judge rules ctx rule m = .ok .confirmed := by
  constructor
  · intro h
    refine ⟨mem_of_mem_confirmMatches m h, ?_⟩
    have hall : ∀ k ∈ (confirmMatches rules ctx hits).confirmed, ∃ r,
        rules.rule? k.rule = some r ∧ Confirmation.judge rules ctx r k = .ok .confirmed := by
      refine List.foldlRecOn (motive := fun acc : Confirmation ctx.tree => ∀ k ∈ acc.confirmed, ∃ r,
        rules.rule? k.rule = some r ∧ Confirmation.judge rules ctx r k = .ok .confirmed) _ _
        (fun k hk => by simp at hk) ?_
      intro acc hacc hit _ k hk
      rcases Confirmation.mem_confirmed_take_iff.1 hk with hk | ⟨rfl, -, hjudge⟩
      · exact hacc k hk
      · exact hjudge
    obtain ⟨r, hr, hjudge⟩ := hall m h
    rw [hrule] at hr
    rw [Option.some.inj hr]
    exact hjudge
  · intro h
    exact foldl_of_mem (P := fun acc : Confirmation ctx.tree => m.rule ∉ acc.failed)
      (Q := fun acc : Confirmation ctx.tree => m ∈ acc.confirmed)
      (fun _ hacc k _ => Confirmation.not_mem_failed_take hrule hsafe hacc k)
      (fun _ hacc k _ => Confirmation.mem_confirmed_take_iff.2 (Or.inl hacc))
      (fun _ hacc => Confirmation.mem_confirmed_take_iff.2
        (Or.inr ⟨rfl, hacc, rule, hrule, h.2⟩)) h.1 _ List.not_mem_nil

end TypeLint
