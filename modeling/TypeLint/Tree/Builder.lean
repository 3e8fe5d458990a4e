import TypeLint.Tree.Basic

/-!
# Building a tree

A parser hands its entries over one after another, parents before children. `TreeBuilder.push` judges
an entry only against what was pushed before it, and goes on after an error: the entry is kept, and
its parent, if it is there, gets one more child. `TreeBuilder.finish` gives the tree, or the error of
the first entry that was out of place.

The position of an entry is the number of entries before it. It stands for a number of 32 bits, so a
builder is meant for fewer than two to the power thirty-two entries.

A builder without an error carries the proof that its entries are coherent and that the children it
has recorded are those of `childLists`. `coherent_push` and `childLists_push` are the two steps.
-/

namespace TypeLint

open TypeLint.Tree

namespace Tree

theorem getElem?_push_of_eq_some {α : Type} {xs : Array α} {x a : α} {i : Nat}
    (h : xs[i]? = some a) : (xs.push x)[i]? = some a := by
  have hlt : i < xs.size := (Array.getElem?_eq_some_iff.1 h).1
  rw [Array.getElem?_push_lt hlt, ← Array.getElem?_eq_getElem hlt]
  exact h

/-- An entry keeps its place when more entries follow. -/
theorem Attached.push {entries : Array Entry} {i : Nat} {e : Entry} (h : Attached entries i e)
    (next : Entry) : Attached (entries.push next) i e := by
  unfold Attached at h ⊢
  split
  next hp =>
    rw [hp] at h
    exact h
  next p hp =>
    rw [hp] at h
    obtain ⟨d, hlt, hd, hc⟩ := h
    exact ⟨d, hlt, getElem?_push_of_eq_some hd, hc⟩

/-- An entry with nothing wrong about it keeps a list coherent. -/
theorem coherent_push {source : String} {entries : Array Entry} {e : Entry}
    (h : Coherent source entries) (he : entryError? source entries entries.size e = none) :
    Coherent source (entries.push e) := by
  intro i d hd
  rw [Array.getElem?_push] at hd
  split at hd
  next hi =>
    cases hd
    obtain ⟨hfits, hattached⟩ := entryError?_eq_none_iff.1 he
    rw [hi]
    exact ⟨hfits, hattached.push e⟩
  next =>
    obtain ⟨hfits, hattached⟩ := h i d hd
    exact ⟨hfits, hattached.push e⟩

/-- In a coherent list a parent comes before its children. -/
theorem lt_of_parent {source : String} {entries : Array Entry} (h : Coherent source entries)
    {i p : Nat} (hp : entries[i]?.bind Entry.parent = some p) : p < i := by
  obtain ⟨e, he, hep⟩ := Option.bind_eq_some_iff.1 hp
  have hattached := (h i e he).2
  rw [Attached, hep] at hattached
  obtain ⟨_, hlt, _⟩ := hattached
  exact hlt

theorem size_childLists (entries : Array Entry) : (childLists entries).size = entries.size := by
  unfold childLists
  induction List.range entries.size with
  | nil => simp
  | cons i is ih =>
    rw [List.foldr_cons]
    split
    next => rw [Array.size_modify]; exact ih
    next => exact ih

/-- One more entry is one more child for its parent and has no children yet. -/
theorem childLists_push {source : String} {entries : Array Entry} {e : Entry}
    (h : Coherent source (entries.push e)) :
    childLists (entries.push e) =
      match e.parent with
      | some p => ((childLists entries).push []).modify p (· ++ [entries.size])
      | none => (childLists entries).push [] := by
  have hold : ∀ i ∈ List.range entries.size,
      (entries.push e)[i]?.bind Entry.parent = entries[i]?.bind Entry.parent := by
    intro i hi
    rw [Array.getElem?_push_lt (List.mem_range.1 hi), ← Array.getElem?_eq_getElem]
  have hnew : (entries.push e)[entries.size]?.bind Entry.parent = e.parent := by
    rw [Array.getElem?_push_size]
    rfl
  -- what the new entry adds to the list of a node
  have hlist : ∀ q, q < (entries.push e).size → (childLists (entries.push e))[q]? = some
      (((childLists entries)[q]?.getD []) ++ if e.parent = some q then [entries.size] else []) := by
    intro q hq
    rw [getElem?_childLists hq, Array.size_push, List.range_succ, List.filter_append,
      List.filter_cons, List.filter_nil, hnew,
      List.filter_congr (q := fun i => entries[i]?.bind Entry.parent == some q)
        (fun i hi => by rw [hold i hi])]
    have hfront : (List.range entries.size).filter (fun i => entries[i]?.bind Entry.parent == some q)
        = (childLists entries)[q]?.getD [] := by
      rcases Nat.lt_or_ge q entries.size with hlt | hge
      · rw [getElem?_childLists hlt]
        rfl
      · -- no earlier entry can name the new one as its parent
        rw [Array.getElem?_eq_none (by rw [size_childLists]; exact hge), Option.getD_none,
          List.filter_eq_nil_iff]
        intro i hi hp
        have hlt := lt_of_parent h ((hold i hi).trans (beq_iff_eq.1 hp))
        have := List.mem_range.1 hi
        omega
    rw [hfront]
    by_cases hp : e.parent = some q
    · rw [if_pos hp, if_pos (beq_iff_eq.2 hp)]
    · rw [if_neg hp, if_neg (fun hbeq => hp (beq_iff_eq.1 hbeq))]
  refine Array.ext_getElem? fun q => ?_
  rcases Nat.lt_or_ge q (entries.push e).size with hq | hq
  · have hbefore : ((childLists entries).push [])[q]? = some ((childLists entries)[q]?.getD []) := by
      rw [Array.size_push] at hq
      rw [Array.getElem?_push, size_childLists]
      split
      next heq => rw [Array.getElem?_eq_none (by rw [size_childLists]; omega)]; rfl
      next hne =>
        rw [Array.getElem?_eq_getElem (by rw [size_childLists]; omega)]
        rfl
    rw [hlist q hq]
    cases hp : e.parent with
    | none => simp [hbefore]
    | some p =>
      rw [Array.getElem?_modify, hbefore]
      by_cases hpq : p = q <;> simp [hpq]
  · rw [Array.getElem?_eq_none (by rw [size_childLists]; exact hq), Array.getElem?_eq_none]
    rw [Array.size_push] at hq
    cases e.parent <;> simpa [size_childLists] using hq

end Tree

/-- A tree under construction: what was pushed so far, the children that every node has got, and the
error of the first entry that was out of place. -/
structure TreeBuilder where
  source : String
  entries : Array Entry
  childIds : Array (Array Nat)
  error : Option TreeError
  coherent : error = none → Coherent source entries
  childIds_eq : error = none → childIds.map Array.toList = childLists entries

namespace TreeBuilder

/-- Nothing was pushed. -/
def start (source : String) : TreeBuilder where
  source := source
  entries := #[]
  childIds := #[]
  error := none
  coherent _ i e h := by simp at h
  childIds_eq _ := by simp [childLists]

/-- The children after one more node that names this parent. A parent that is not there gets none. -/
def addChild (childIds : Array (Array Nat)) (id : Nat) (parent : Option Nat) : Array (Array Nat) :=
  match parent with
  | some p => (childIds.push #[]).modify p (·.push id)
  | none => childIds.push #[]

theorem map_toList_addChild (childIds : Array (Array Nat)) (id : Nat) (parent : Option Nat) :
    (addChild childIds id parent).map Array.toList =
      match parent with
      | some p => ((childIds.map Array.toList).push []).modify p (· ++ [id])
      | none => (childIds.map Array.toList).push [] := by
  unfold addChild
  split
  next p =>
    refine Array.ext_getElem? fun q => ?_
    have hpush : ((childIds.map Array.toList).push []) = (childIds.push #[]).map Array.toList := by
      rw [Array.map_push]
    rw [hpush, Array.getElem?_map, Array.getElem?_modify, Array.getElem?_modify, Array.getElem?_map]
    by_cases hpq : p = q
    · simp [hpq, Option.map_map, Function.comp_def]
    · simp [hpq]
  next => rw [Array.map_push]

/-- Pushes an entry. An error that was there before is kept, and the entry is recorded in any case. -/
def push (b : TreeBuilder) (e : Entry) : TreeBuilder where
  source := b.source
  entries := b.entries.push e
  childIds := addChild b.childIds b.entries.size e.parent
  error := b.error.or (entryError? b.source b.entries b.entries.size e)
  coherent herror := by
    rw [Option.or_eq_none_iff] at herror
    exact coherent_push (b.coherent herror.1) herror.2
  childIds_eq herror := by
    rw [Option.or_eq_none_iff] at herror
    rw [map_toList_addChild, b.childIds_eq herror.1,
      childLists_push (coherent_push (b.coherent herror.1) herror.2)]

/-- The finished tree, or what is wrong with it. -/
def finish (b : TreeBuilder) : Except TreeError SyntaxTree :=
  match h : b.error with
  | some error => .error error
  | none =>
    if hne : 0 < b.entries.size then
      .ok {
        source := b.source, entries := b.entries, childIds := b.childIds.map Array.toList
        coherent := b.coherent h, nonempty := hne, childIds_eq := b.childIds_eq h }
    else
      .error .empty

end TreeBuilder

/-- The tree that entries describe, pushed in order, or what is wrong with it. -/
def SyntaxTree.ofEntries (source : String) (entries : Array Entry) : Except TreeError SyntaxTree :=
  (entries.foldl TreeBuilder.push (.start source)).finish

end TypeLint
