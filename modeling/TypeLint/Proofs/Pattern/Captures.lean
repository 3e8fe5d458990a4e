import Mathlib.Data.List.Nodup
import TypeLint.Pattern.Basic

/-!
# What a pattern binds

Patterns bind names in one place only, `Pattern.capture`, and drop bindings in one place only, when an
attempt has failed. So whatever survives these two steps survives every pattern: that is
`eval_preserves`, by induction over patterns and lists of patterns together.

The invariant it is used for is `Captures.Tidy`: every name stands for one value, and the value is a
node. A captured node is then found again under its name, with its own span and text
(`Captures.Tidy.node?_of_mem`), although a name can be bound again and a failed alternative can take
older bindings with it.
-/

namespace TypeLint

variable {t : SyntaxTree}

/-! ## Looking a name up -/

namespace Captures

/-- The names that are bound, in binding order. -/
def names (c : Captures t) : List String := c.entries.map (·.1)

/-- Each name stands for one value, and that is a node. -/
structure Tidy (c : Captures t) : Prop where
  distinct : c.names.Nodup
  nodes : ∀ e ∈ c.entries, ∃ n, e.2 = .node n

theorem tidy_empty : (empty : Captures t).Tidy := ⟨List.nodup_nil, fun e he => by cases he⟩

/-- Binding a name drops its older entry, so no name is bound twice. -/
theorem Tidy.bindNode {c : Captures t} (h : c.Tidy) (name : String) (n : Node t) :
    (c.bindNode name n).Tidy := by
  refine ⟨?_, fun e he => ?_⟩
  · show (List.map _ (_ ++ _)).Nodup
    rw [List.map_append]
    refine List.nodup_append.2 ⟨?_, by simp, fun a ha b hb hab => ?_⟩
    · exact h.distinct.sublist (List.filter_sublist.map _)
    · obtain ⟨e, he, rfl⟩ := List.mem_map.1 ha
      rw [List.map_singleton, List.mem_singleton] at hb
      have hne := (List.mem_filter.1 he).2
      rw [hab, hb] at hne
      simp at hne
  · rcases List.mem_append.1 he with he | he
    · exact h.nodes e (List.mem_filter.1 he).1
    · exact ⟨n, by rw [List.mem_singleton.1 he]⟩

theorem Tidy.take {c : Captures t} (h : c.Tidy) (k : Nat) : (c.take k).Tidy :=
  ⟨h.distinct.sublist ((List.take_sublist k _).map _),
    fun e he => h.nodes e (List.mem_of_mem_take he)⟩

/-- Where names are distinct, an entry is what its name stands for. -/
theorem get?_of_mem {c : Captures t} (hn : c.names.Nodup) {name : String} {value : Binding t}
    (h : (name, value) ∈ c.entries) : c.get? name = some value := by
  unfold get?
  cases hfind : c.entries.find? (·.1 == name) with
  | none =>
    have := List.find?_eq_none.1 hfind (name, value) h
    simp at this
  | some e =>
    have hname : e.1 = name := by simpa using List.find?_some hfind
    -- two entries of one name are one entry
    have hsame : e = (name, value) :=
      List.inj_on_of_nodup_map hn (List.mem_of_find?_eq_some hfind) h hname
    rw [hsame]
    rfl

theorem Tidy.node?_of_mem {c : Captures t} (h : c.Tidy) {name : String} {n : Node t}
    (hmem : (name, .node n) ∈ c.entries) : c.node? name = some n ∧ c.span? name = some n.span := by
  have hnode : c.node? name = some n := by
    rw [node?, get?_of_mem h.distinct hmem]
  exact ⟨hnode, by rw [span?, hnode, Option.map_some]⟩

end Captures

/-! ## Running a pattern -/

/-- A property that binding a node keeps, and dropping the last bindings. -/
structure Captures.Stable (P : Captures t → Prop) : Prop where
  bindNode : ∀ c name n, P c → P (c.bindNode name n)
  take : ∀ c k, P c → P (c.take k)

theorem Captures.stable_tidy : Captures.Stable (t := t) Captures.Tidy :=
  ⟨fun _ name n hc => hc.bindNode name n, fun _ k hc => hc.take k⟩

namespace Pattern

variable {P : Captures t → Prop}

theorem settle_preserves (hP : Captures.Stable P) {before : Captures t}
    {result : Bool × Captures t} (h : P result.2) : P (settle before result).2 := by
  obtain ⟨verdict, c⟩ := result
  cases verdict with
  | true => exact h
  | false => exact hP.take c before.size h

mutual

/-- A stable property is kept by every pattern. -/
theorem eval_preserves (hP : Captures.Stable P) :
    ∀ (p : Pattern) (n : Node t) (c : Captures t), P c → P (eval p n c).2
  | .any, _, _, h => by rw [eval]; exact h
  | .kind _, _, _, h => by rw [eval]; exact h
  | .text _, _, _, h => by rw [eval]; exact h
  | .token _, _, _, h => by rw [eval]; exact h
  | .field name p, n, c, h => by
    rw [eval]
    split
    next child _ => exact settle_preserves hP (eval_preserves hP p child c h)
    next => exact h
  | .parent p, n, c, h => by
    rw [eval]
    split
    next above _ => exact settle_preserves hP (eval_preserves hP p above c h)
    next => exact h
  | .children q p, n, c, h => by
    rw [eval]
    -- the children are tried one after the other on the captures of those before
    refine List.foldlRecOn (motive := fun acc : Nat × Captures t => P acc.2) _ _ h ?_
    rintro ⟨hits, c⟩ hc child _
    have hchild : P (settle c (eval p child c)).2 := settle_preserves hP (eval_preserves hP p child c hc)
    simp only
    split
    next c' heq =>
      rw [heq] at hchild
      exact hchild
    next c' heq =>
      rw [heq] at hchild
      exact hchild
  | .all ps, n, c, h => by
    rw [eval]
    exact evalAll_preserves hP ps n c h
  | .anyOf ps, n, c, h => by
    rw [eval]
    exact evalAny_preserves hP ps n c h
  -- a negated pattern runs on captures of its own
  | .not _, _, _, h => by rw [eval]; exact h
  | .holds _, _, _, h => by rw [eval]; exact h
  | .capture name p, n, c, h => by
    rw [eval]
    have hp : P (settle c (eval p n c)).2 := settle_preserves hP (eval_preserves hP p n c h)
    split
    next c' heq =>
      rw [heq] at hp
      exact hP.bindNode c' name n hp
    next c' heq =>
      rw [heq] at hp
      exact hp

theorem evalAll_preserves (hP : Captures.Stable P) :
    ∀ (ps : List Pattern) (n : Node t) (c : Captures t), P c → P (evalAll ps n c).2
  | [], _, _, h => by rw [evalAll]; exact h
  | p :: ps, n, c, h => by
    rw [evalAll]
    have hp : P (settle c (eval p n c)).2 := settle_preserves hP (eval_preserves hP p n c h)
    split
    next c' heq =>
      rw [heq] at hp
      exact evalAll_preserves hP ps n c' hp
    next c' heq =>
      rw [heq] at hp
      exact hp

theorem evalAny_preserves (hP : Captures.Stable P) :
    ∀ (ps : List Pattern) (n : Node t) (c : Captures t), P c → P (evalAny ps n c).2
  | [], _, _, h => by rw [evalAny]; exact h
  | p :: ps, n, c, h => by
    rw [evalAny]
    have hp : P (settle c (eval p n c)).2 := settle_preserves hP (eval_preserves hP p n c h)
    split
    next c' heq =>
      rw [heq] at hp
      exact hp
    next c' heq =>
      rw [heq] at hp
      exact evalAny_preserves hP ps n c' hp

end

/-- What a pattern binds from nothing is tidy. -/
theorem tidy_of_match? {p : Pattern} {n : Node t} {c : Captures t} (h : p.match? n = some c) :
    c.Tidy := by
  have heval := eval_preserves Captures.stable_tidy p n .empty Captures.tidy_empty
  have hattempt : (p.attempt n .empty).2.Tidy := settle_preserves Captures.stable_tidy heval
  unfold match? at h
  split at h
  next c' heq =>
    cases h
    rw [heq] at hattempt
    exact hattempt
  next => cases h

end Pattern

end TypeLint
