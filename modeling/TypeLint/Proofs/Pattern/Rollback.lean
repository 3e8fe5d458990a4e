import TypeLint.Proofs.Pattern.Captures
import TypeLint.Proofs.Pattern.Meaning

/-!
# What a failed attempt leaves behind

A failed attempt cuts the captures back to as many entries as there were. That gives the old captures
back as long as new entries only ever stood behind the old ones. But binding a name that is bound
already takes its old entry out, and then the cut keeps the new entry in its place.

`Pattern.bound` lists the names that a pattern binds on a node on its way, in parts that pass and in
parts that fail. Two inductions over patterns settle the question:

- where none of these names was bound, the old captures stay a front part of every capture set on the
  way (`eval_extends`), so that the cut restores them;
- where one of them was bound to a computed text, that text is gone for good (`eval_forgets`), because
  patterns bind nodes only.

Together they say for which bound names failure is harmless, `attempt_failed_restores_iff`, and
`failed_attempt_leaves_trace` is a smallest case in which it is not.
-/

namespace TypeLint

variable {t : SyntaxTree}

/-! ## Captures on the way -/

namespace Captures

/-- The entries of `base` are still there, before all others. -/
def Extends (base c : Captures t) : Prop := base.entries <+: c.entries

theorem Extends.refl (base : Captures t) : Extends base base := List.prefix_rfl

theorem Extends.size_le {base c : Captures t} (h : Extends base c) : base.size ≤ c.size := h.length_le

theorem Extends.take {base c : Captures t} {k : Nat} (h : Extends base c) (hk : base.size ≤ k) :
    Extends base (c.take k) := List.prefix_take_iff.2 ⟨h, hk⟩

/-- A name that is not bound in `base` can be bound, and bound again, without touching `base`. -/
theorem Extends.bindNode {base c : Captures t} {name : String} (h : Extends base c)
    (hname : name ∉ base.names) (n : Node t) : Extends base (c.bindNode name n) := by
  obtain ⟨extra, hextra⟩ := h
  have hbase : base.entries.filter (·.1 != name) = base.entries := by
    refine List.filter_eq_self.2 fun e he => ?_
    have hne : e.1 ≠ name := fun heq => hname (heq ▸ List.mem_map_of_mem he)
    simpa using hne
  show base.entries <+: c.entries.filter (·.1 != name) ++ _
  rw [← hextra, List.filter_append, hbase, List.append_assoc]
  exact List.prefix_append _ _

/-- Cutting back to the size of `base` leaves `base`. -/
theorem Extends.take_size {base c : Captures t} (h : Extends base c) : c.take base.size = base :=
  congrArg Captures.mk (List.prefix_iff_eq_take.1 h).symm

/-- No computed text is bound under the name. -/
def NoText (name : String) (c : Captures t) : Prop := ∀ text, (name, .text text) ∉ c.entries

theorem noText_bindNode (name : String) (c : Captures t) (n : Node t) :
    NoText name (c.bindNode name n) := by
  intro text h
  rcases List.mem_append.1 h with h | h
  · have hne := (List.mem_filter.1 h).2
    simp at hne
  · cases List.mem_singleton.1 h

/-- Patterns bind nodes, so a text never comes back. -/
theorem stable_noText (name : String) : Stable (t := t) (NoText name) := by
  constructor
  · intro c other n hc text h
    rcases List.mem_append.1 h with h | h
    · exact hc text (List.mem_filter.1 h).1
    · cases List.mem_singleton.1 h
  · intro c k hc text h
    exact hc text (List.mem_of_mem_take h)

end Captures

namespace Pattern

open Captures

/-! ## The names bound on the way -/

mutual

/-- The names that a run of the pattern binds on its way, whether or not it passes in the end. -/
def bound : Pattern → Node t → List String
  | .field name p, n =>
    match n.child? name with
    | some child => bound p child
    | none => []
  | .parent p, n =>
    match n.parent with
    | some above => bound p above
    | none => []
  | .children _ p, n => n.significantChildren.flatMap fun child => bound p child
  | .all ps, n => boundAll ps n
  | .anyOf ps, n => boundAny ps n
  | .capture name p, n => bound p n ++ if sat p n then [name] else []
  -- tests bind nothing, and a negated pattern runs on captures of its own
  | .any, _ => []
  | .kind _, _ => []
  | .text _, _ => []
  | .token _, _ => []
  | .not _, _ => []
  | .holds _, _ => []

/-- The names bound up to the first pattern that fails. -/
def boundAll : List Pattern → Node t → List String
  | [], _ => []
  | p :: ps, n => bound p n ++ if sat p n then boundAll ps n else []

/-- The names bound up to the first pattern that passes. -/
def boundAny : List Pattern → Node t → List String
  | [], _ => []
  | p :: ps, n => bound p n ++ if sat p n then [] else boundAny ps n

end

/-! ## Names that were free -/

theorem settle_extends {base before : Captures t} {result : Bool × Captures t}
    (hbefore : Extends base before) (h : Extends base result.2) :
    Extends base (settle before result).2 := by
  obtain ⟨verdict, c⟩ := result
  cases verdict with
  | true => exact h
  | false => exact h.take hbefore.size_le

mutual

/-- A run that binds no name of `base` leaves `base` in front. -/
theorem eval_extends {base : Captures t} :
    ∀ (p : Pattern) (n : Node t) (c : Captures t), (∀ x ∈ bound p n, x ∉ base.names) →
      Extends base c → Extends base (eval p n c).2
  | .any, _, _, _, h => by rw [eval]; exact h
  | .kind _, _, _, _, h => by rw [eval]; exact h
  | .text _, _, _, _, h => by rw [eval]; exact h
  | .token _, _, _, _, h => by rw [eval]; exact h
  | .field name p, n, c, hfree, h => by
    rw [eval]
    rw [bound] at hfree
    split
    next child hchild =>
      rw [hchild] at hfree
      exact settle_extends h (eval_extends p child c hfree h)
    next => exact h
  | .parent p, n, c, hfree, h => by
    rw [eval]
    rw [bound] at hfree
    split
    next above habove =>
      rw [habove] at hfree
      exact settle_extends h (eval_extends p above c hfree h)
    next => exact h
  | .children q p, n, c, hfree, h => by
    rw [eval_children]
    rw [bound] at hfree
    refine List.foldlRecOn _ _ h fun c hc child hchild => ?_
    have hchildFree : ∀ x ∈ bound p child, x ∉ base.names := fun x hx =>
      hfree x (List.mem_flatMap.2 ⟨child, hchild, hx⟩)
    exact settle_extends hc (eval_extends p child c hchildFree hc)
  | .all ps, n, c, hfree, h => by
    rw [eval]
    rw [bound] at hfree
    exact evalAll_extends ps n c hfree h
  | .anyOf ps, n, c, hfree, h => by
    rw [eval]
    rw [bound] at hfree
    exact evalAny_extends ps n c hfree h
  | .not _, _, _, _, h => by rw [eval]; exact h
  | .holds _, _, _, _, h => by rw [eval]; exact h
  | .capture name p, n, c, hfree, h => by
    rw [eval_capture]
    rw [bound] at hfree
    have hp : Extends base (p.attempt n c).2 :=
      settle_extends h (eval_extends p n c (fun x hx => hfree x (List.mem_append_left _ hx)) h)
    split
    next hsat =>
      -- the pattern passed, so its own name is among those bound
      rw [if_pos hsat] at hfree
      exact hp.bindNode (hfree name (List.mem_append_right _ (List.mem_singleton_self name))) n
    next => exact hp

theorem evalAll_extends {base : Captures t} :
    ∀ (ps : List Pattern) (n : Node t) (c : Captures t), (∀ x ∈ boundAll ps n, x ∉ base.names) →
      Extends base c → Extends base (evalAll ps n c).2
  | [], _, _, _, h => by rw [evalAll]; exact h
  | p :: ps, n, c, hfree, h => by
    rw [evalAll_cons]
    rw [boundAll] at hfree
    have hp : Extends base (p.attempt n c).2 :=
      settle_extends h (eval_extends p n c (fun x hx => hfree x (List.mem_append_left _ hx)) h)
    split
    next hsat =>
      rw [if_pos hsat] at hfree
      exact evalAll_extends ps n _ (fun x hx => hfree x (List.mem_append_right _ hx)) hp
    next => exact hp

theorem evalAny_extends {base : Captures t} :
    ∀ (ps : List Pattern) (n : Node t) (c : Captures t), (∀ x ∈ boundAny ps n, x ∉ base.names) →
      Extends base c → Extends base (evalAny ps n c).2
  | [], _, _, _, h => by rw [evalAny]; exact h
  | p :: ps, n, c, hfree, h => by
    rw [evalAny_cons]
    rw [boundAny] at hfree
    have hp : Extends base (p.attempt n c).2 :=
      settle_extends h (eval_extends p n c (fun x hx => hfree x (List.mem_append_left _ hx)) h)
    split
    next => exact hp
    next hsat =>
      rw [if_neg hsat] at hfree
      exact evalAny_extends ps n _ (fun x hx => hfree x (List.mem_append_right _ hx)) hp

end

/-- A failed attempt that binds no name of the captures gives them back. -/
theorem attempt_restores {p : Pattern} {n : Node t} {c : Captures t} (hfail : p.sat n = false)
    (hfree : ∀ x ∈ p.bound n, x ∉ c.names) : (p.attempt n c).2 = c := by
  have hextends := eval_extends p n c hfree (Extends.refl c)
  have hcut : p.attempt n c = settle c (false, (eval p n c).2) :=
    congrArg (settle c) (Prod.ext ((eval_fst p n c).trans hfail) rfl)
  rw [hcut]
  exact hextends.take_size

/-! ## Names that were bound -/

theorem attempt_noText {x : String} (p : Pattern) (n : Node t) {c : Captures t}
    (h : NoText x c) : NoText x (p.attempt n c).2 :=
  settle_preserves (stable_noText x) (eval_preserves (stable_noText x) p n c h)

/-- Going along the children forgets what one of them makes forgotten. -/
theorem foldl_forgets {x : String} {p : Pattern} {child : Node t}
    (hchild : ∀ c, NoText x (p.attempt child c).2) :
    ∀ (below : List (Node t)) (c : Captures t), child ∈ below ∨ NoText x c →
      NoText x (below.foldl (fun c child => (p.attempt child c).2) c)
  | [], _, h => h.resolve_left List.not_mem_nil
  | next :: below, c, h => by
    refine foldl_forgets hchild below _ ?_
    rcases h with h | h
    · rcases List.mem_cons.1 h with rfl | h
      · exact Or.inr (hchild c)
      · exact Or.inl h
    · exact Or.inr (attempt_noText p next h)

mutual

/-- A run that binds a name leaves no computed text under it. -/
theorem eval_forgets {x : String} :
    ∀ (p : Pattern) (n : Node t) (c : Captures t), x ∈ bound p n → NoText x (eval p n c).2
  | .any, _, _, h => by simp [bound] at h
  | .kind _, _, _, h => by simp [bound] at h
  | .text _, _, _, h => by simp [bound] at h
  | .token _, _, _, h => by simp [bound] at h
  | .field name p, n, c, h => by
    rw [eval]
    rw [bound] at h
    split
    next child hchild =>
      rw [hchild] at h
      exact settle_preserves (stable_noText x) (eval_forgets p child c h)
    next hchild =>
      rw [hchild] at h
      cases h
  | .parent p, n, c, h => by
    rw [eval]
    rw [bound] at h
    split
    next above habove =>
      rw [habove] at h
      exact settle_preserves (stable_noText x) (eval_forgets p above c h)
    next habove =>
      rw [habove] at h
      cases h
  | .children q p, n, c, h => by
    rw [eval_children]
    rw [bound] at h
    obtain ⟨child, hchild, hx⟩ := List.mem_flatMap.1 h
    exact foldl_forgets
      (fun c => settle_preserves (stable_noText x) (eval_forgets p child c hx))
      n.significantChildren c (Or.inl hchild)
  | .all ps, n, c, h => by
    rw [eval]
    rw [bound] at h
    exact evalAll_forgets ps n c h
  | .anyOf ps, n, c, h => by
    rw [eval]
    rw [bound] at h
    exact evalAny_forgets ps n c h
  | .not _, _, _, h => by simp [bound] at h
  | .holds _, _, _, h => by simp [bound] at h
  | .capture name p, n, c, h => by
    rw [eval_capture]
    rw [bound, List.mem_append] at h
    rcases h with h | h
    · have hp : NoText x (p.attempt n c).2 :=
        settle_preserves (stable_noText x) (eval_forgets p n c h)
      split
      next => exact (stable_noText x).bindNode _ name n hp
      next => exact hp
    · split at h
      next hsat =>
        rw [if_pos hsat]
        cases List.mem_singleton.1 h
        exact noText_bindNode x _ n
      next => cases h

theorem evalAll_forgets {x : String} :
    ∀ (ps : List Pattern) (n : Node t) (c : Captures t),
      x ∈ boundAll ps n → NoText x (evalAll ps n c).2
  | [], _, _, h => by simp [boundAll] at h
  | p :: ps, n, c, h => by
    rw [evalAll_cons]
    rw [boundAll, List.mem_append] at h
    rcases h with h | h
    · have hp : NoText x (p.attempt n c).2 :=
        settle_preserves (stable_noText x) (eval_forgets p n c h)
      split
      next => exact evalAll_preserves (stable_noText x) ps n _ hp
      next => exact hp
    · split at h
      next hsat =>
        rw [if_pos hsat]
        exact evalAll_forgets ps n _ h
      next => cases h

theorem evalAny_forgets {x : String} :
    ∀ (ps : List Pattern) (n : Node t) (c : Captures t),
      x ∈ boundAny ps n → NoText x (evalAny ps n c).2
  | [], _, _, h => by simp [boundAny] at h
  | p :: ps, n, c, h => by
    rw [evalAny_cons]
    rw [boundAny, List.mem_append] at h
    rcases h with h | h
    · have hp : NoText x (p.attempt n c).2 :=
        settle_preserves (stable_noText x) (eval_forgets p n c h)
      split
      next => exact hp
      next => exact evalAny_preserves (stable_noText x) ps n _ hp
    · split at h
      next => cases h
      next hsat =>
        rw [if_neg hsat]
        exact evalAny_forgets ps n _ h

end

/-- These names, each bound to a computed text. -/
def textsUnder (names : List String) : Captures t := ⟨names.map fun x => (x, .text "")⟩

theorem names_textsUnder (names : List String) : (textsUnder names : Captures t).names = names := by
  unfold textsUnder Captures.names
  rw [List.map_map]
  exact List.map_id names

/-- An attempt that binds a name again changes what was bound, if that was a text. -/
theorem attempt_textsUnder_ne {p : Pattern} {n : Node t} {names : List String} {x : String}
    (hx : x ∈ p.bound n) (hbound : x ∈ names) :
    (p.attempt n (textsUnder names)).2 ≠ textsUnder names := by
  intro hsame
  have hgone : NoText x (p.attempt n (textsUnder names)).2 :=
    settle_preserves (stable_noText x) (eval_forgets p n (textsUnder names) hx)
  rw [hsame] at hgone
  exact hgone "" (List.mem_map_of_mem hbound)

/-- **When failure is harmless.** A failed attempt gives back every capture set with these names
exactly when it binds none of them on its way. -/
theorem attempt_failed_restores_iff (p : Pattern) (n : Node t) (names : List String) :
    (∀ c : Captures t, c.names = names → (p.attempt n c).1 = false → (p.attempt n c).2 = c) ↔
      p.accepts n = true ∨ ∀ x ∈ p.bound n, x ∉ names := by
  rw [accepts, attempt_fst]
  constructor
  · intro h
    cases hsat : p.sat n with
    | true => exact Or.inl rfl
    | false =>
      refine Or.inr fun x hx hbound => ?_
      have hfail : (p.attempt n (textsUnder names)).1 = false := (attempt_fst p n _).trans hsat
      exact attempt_textsUnder_ne hx hbound (h _ (names_textsUnder names) hfail)
  · rintro (hpass | hfree) c rfl hfail
    · rw [attempt_fst, hpass] at hfail
      cases hfail
    · rw [attempt_fst] at hfail
      exact attempt_restores hfail hfree

/-! ## A trace

The text `a!`, parsed as a word and a sign, and a pattern that binds a node before it looks at its
kind. -/

def signEntries : Array Tree.Entry :=
  #[⟨none, "program", none, true, 0, 2⟩, ⟨some 0, "word", none, true, 0, 1⟩,
    ⟨some 0, "sign", none, true, 1, 2⟩]

def signTree : SyntaxTree where
  source := "a!"
  entries := signEntries
  childIds := Tree.childLists signEntries
  coherent := Tree.firstError?_eq_none_iff.1 (by decide +kernel)
  nonempty := by decide
  childIds_eq := rfl

def wordOf : Node signTree := ⟨1, by decide⟩

def signOf : Node signTree := ⟨2, by decide⟩

def hastyWord : Pattern := .all [.capture "it" .any, .kind "word"]

/-- The sign is no word, but after the failed attempt the name that stood for the word stands for
it. -/
theorem failed_attempt_leaves_trace :
    hastyWord.attempt wordOf .empty = (true, Captures.empty.bindNode "it" wordOf) ∧
    hastyWord.attempt signOf (Captures.empty.bindNode "it" wordOf) =
      (false, Captures.empty.bindNode "it" signOf) ∧
    Captures.empty.bindNode "it" signOf ≠ Captures.empty.bindNode "it" wordOf := by
  refine ⟨rfl, rfl, ?_⟩
  decide

end Pattern

end TypeLint
