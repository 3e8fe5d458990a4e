import Mathlib.Data.List.Basic
import Mathlib.Data.List.Induction
import TypeLint.Proofs.Span.Overlap
import TypeLint.Tree.Builder
import TypeLint.Tree.Walk

/-!
# Which entries make a tree

A builder looks at one entry at a time and at nothing that comes later. `ofEntries_ok_iff_inPlace`
says what comes of it for the list as a whole. `InPlace` describes an entry that belongs where it
stands, `Misplaced` what is wrong with one that does not; the two exclude each other, and of several
faults the bounds count before the characters and the characters before the parent. The list is a tree
exactly when every entry is in place, and otherwise the answer is the fault of the first that is not.

The step is `firstError?_push`: one more entry adds its own fault, if there was none before. From it
`foldl_push` follows by induction: after any run the builder keeps the first fault of what was pushed.
In a tree that was built, spans nest along every path: `contains_of_mem_ancestors`.
-/

namespace TypeLint

namespace Tree

/-! ## One entry -/

/-- The entry at position `i` belongs there: it lies over the text, between characters, and it is the
first and has no parent, or it has a parent before it whose span holds its own. -/
structure InPlace (source : String) (entries : Array Entry) (i : Nat) (e : Entry) : Prop where
  stop_le : e.span.stop ≤ source.utf8ByteSize
  start_boundary : Text.IsBoundary source e.span.start
  stop_boundary : Text.IsBoundary source e.span.stop
  first : i = 0 → e.parent = none
  later : 0 < i →
    ∃ p d, e.parent = some p ∧ p < i ∧ entries[p]? = some d ∧ d.span.contains e.span = true

/-- What is wrong with the entry at position `i`. -/
inductive Misplaced (source : String) (entries : Array Entry) (i : Nat) (e : Entry) :
    TreeError → Prop
  | outOfBounds (h : source.utf8ByteSize < e.span.stop) :
      Misplaced source entries i e (.outOfBounds e.kind e.span source.utf8ByteSize)
  | splitsCharacter (hle : e.span.stop ≤ source.utf8ByteSize)
      (h : ¬ Text.IsBoundary source e.span.start ∨ ¬ Text.IsBoundary source e.span.stop) :
      Misplaced source entries i e (.splitsCharacter e.kind e.span)
  | multipleRoots (hfits : Fits source e.span) (hlater : 0 < i) (h : e.parent = none) :
      Misplaced source entries i e .multipleRoots
  | escapesParent (hfits : Fits source e.span) {p : Nat} (hp : e.parent = some p)
      (h : ∀ d, p < i → entries[p]? = some d → d.span.contains e.span = false) :
      Misplaced source entries i e (.escapesParent e.kind e.span)

theorem inPlace_iff {source : String} {entries : Array Entry} {i : Nat} {e : Entry} :
    InPlace source entries i e ↔ Fits source e.span ∧ Attached entries i e := by
  constructor
  · intro h
    refine ⟨⟨h.stop_le, h.start_boundary, h.stop_boundary⟩, ?_⟩
    rcases Nat.eq_zero_or_pos i with hi | hi
    · rw [Attached, h.first hi]
      exact hi
    · obtain ⟨p, d, hp, hlt, hd, hc⟩ := h.later hi
      rw [Attached, hp]
      exact ⟨d, hlt, hd, hc⟩
  · intro h
    obtain ⟨⟨hle, hstart, hstop⟩, hattached⟩ := h
    unfold Attached at hattached
    refine ⟨hle, hstart, hstop, fun hi => ?_, fun hi => ?_⟩
    · cases hp : e.parent with
      | none => rfl
      | some p =>
        rw [hp] at hattached
        obtain ⟨_, hlt, _⟩ := hattached
        omega
    · cases hp : e.parent with
      | none =>
        rw [hp] at hattached
        simp only at hattached
        omega
      | some p =>
        rw [hp] at hattached
        obtain ⟨d, hlt, hd, hc⟩ := hattached
        exact ⟨p, d, rfl, hlt, hd, hc⟩

theorem entryError?_eq_none_iff_inPlace {source : String} {entries : Array Entry} {i : Nat}
    {e : Entry} : entryError? source entries i e = none ↔ InPlace source entries i e :=
  entryError?_eq_none_iff.trans inPlace_iff.symm

/-- The check names the fault of an entry. -/
theorem misplaced_of_entryError? {source : String} {entries : Array Entry} {i : Nat} {e : Entry}
    {error : TreeError} (h : entryError? source entries i e = some error) :
    Misplaced source entries i e error := by
  unfold entryError? at h
  split at h
  next hlt =>
    cases h
    exact .outOfBounds hlt
  next hle =>
    have hle : e.span.stop ≤ source.utf8ByteSize := by omega
    split at h
    next hb =>
      cases h
      exact .splitsCharacter hle (Decidable.not_and_iff_or_not.1 hb)
    next hb =>
      have hfits : Fits source e.span := ⟨hle, Decidable.not_not.1 hb⟩
      split at h
      next hp =>
        split at h
        next => cases h
        next hi =>
          cases h
          exact .multipleRoots hfits (by omega) hp
      next p hp =>
        split at h
        next d hd =>
          split at h
          next => cases h
          next hc =>
            cases h
            refine .escapesParent hfits hp fun d' hlt hd' => ?_
            rw [hd, Option.some.injEq] at hd'
            rw [← hd']
            exact Bool.eq_false_iff.2 fun htrue => hc ⟨hlt, htrue⟩
        next hd =>
          cases h
          refine .escapesParent hfits hp fun d' _ hd' => ?_
          rw [hd] at hd'
          cases hd'

/-- An entry has at most one fault, and an entry that is in place has none. -/
theorem entryError?_of_misplaced {source : String} {entries : Array Entry} {i : Nat} {e : Entry}
    {error : TreeError} (h : Misplaced source entries i e error) :
    entryError? source entries i e = some error := by
  cases h with
  | outOfBounds hlt => rw [entryError?, if_pos hlt]
  | splitsCharacter hle hb =>
    rw [entryError?, if_neg (by omega), if_pos (Decidable.not_and_iff_or_not.2 hb)]
  | multipleRoots hfits hlater hp =>
    rw [entryError?, if_neg (by have := hfits.1; omega), if_neg (not_not_intro hfits.2), hp]
    exact if_neg (by omega)
  | @escapesParent hfits p hp hesc =>
    rw [entryError?, if_neg (by have := hfits.1; omega), if_neg (not_not_intro hfits.2), hp]
    simp only
    split
    next d hd =>
      rw [if_neg]
      intro hc
      obtain ⟨hlt, hc⟩ := hc
      rw [hesc d hlt hd] at hc
      cases hc
    next => rfl

theorem entryError?_eq_some_iff {source : String} {entries : Array Entry} {i : Nat} {e : Entry}
    {error : TreeError} :
    entryError? source entries i e = some error ↔ Misplaced source entries i e error :=
  ⟨misplaced_of_entryError?, entryError?_of_misplaced⟩

/-! ## A list of entries -/

/-- What is wrong with an entry does not depend on what is pushed after it. -/
theorem entryError?_push {source : String} {entries : Array Entry} {i : Nat} (e next : Entry)
    (hi : i ≤ entries.size) :
    entryError? source (entries.push next) i e = entryError? source entries i e := by
  have hbefore : ∀ {p}, p < i → (entries.push next)[p]? = entries[p]? := by
    intro p hp
    rw [Array.getElem?_push_lt (by omega), ← Array.getElem?_eq_getElem]
  cases h : entryError? source entries i e with
  | none =>
    rw [entryError?_eq_none_iff_inPlace] at h ⊢
    refine ⟨h.stop_le, h.start_boundary, h.stop_boundary, h.first, fun hpos => ?_⟩
    obtain ⟨p, d, hp, hlt, hd, hc⟩ := h.later hpos
    exact ⟨p, d, hp, hlt, (hbefore hlt).trans hd, hc⟩
  | some error =>
    rw [entryError?_eq_some_iff] at h ⊢
    cases h with
    | outOfBounds hlt => exact .outOfBounds hlt
    | splitsCharacter hle hb => exact .splitsCharacter hle hb
    | multipleRoots hfits hlater hp => exact .multipleRoots hfits hlater hp
    | escapesParent hfits hp hesc =>
      exact .escapesParent hfits hp fun d hlt hd => hesc d hlt ((hbefore hlt).symm.trans hd)

/-- One more entry adds its fault to a list that had none. -/
theorem firstError?_push (source : String) (entries : Array Entry) (e : Entry) :
    firstError? source (entries.push e) =
      (firstError? source entries).or (entryError? source entries entries.size e) := by
  unfold firstError?
  rw [Array.size_push, List.range_succ, List.findSome?_append, List.findSome?_singleton,
    Array.getElem?_push_size, Option.bind_some, entryError?_push e e (Nat.le_refl _)]
  congr 1
  have hsame : ∀ i ∈ List.range entries.size,
      (entries.push e)[i]?.bind (entryError? source (entries.push e) i) =
        entries[i]?.bind (entryError? source entries i) := by
    intro i hi
    have hlt := List.mem_range.1 hi
    rw [Array.getElem?_push_lt hlt, ← Array.getElem?_eq_getElem hlt]
    cases hd : entries[i]? with
    | none => rfl
    | some d => exact entryError?_push d e (Nat.le_of_lt hlt)
  rw [← List.head?_filterMap, ← List.head?_filterMap, List.filterMap_congr hsame]

/-- The first fault is that of an entry with every entry before it in place. -/
theorem firstError?_eq_some_iff {source : String} {entries : Array Entry} {error : TreeError} :
    firstError? source entries = some error ↔
      ∃ i e, entries[i]? = some e ∧ Misplaced source entries i e error ∧
        ∀ j d, j < i → entries[j]? = some d → InPlace source entries j d := by
  unfold firstError?
  rw [List.findSome?_eq_some_iff]
  constructor
  · intro h
    obtain ⟨front, i, back, hsplit, hi, hfront⟩ := h
    obtain ⟨e, he, herror⟩ := Option.bind_eq_some_iff.1 hi
    refine ⟨i, e, he, entryError?_eq_some_iff.1 herror, fun j d hj hd => ?_⟩
    -- everything below `i` stands before it in the range
    have hmem : j ∈ front := by
      have hj' : j ∈ front ++ i :: back := by
        rw [← hsplit, List.mem_range]
        exact (Array.getElem?_eq_some_iff.1 hd).1
      have hsorted : (front ++ i :: back).Pairwise (· < ·) := hsplit ▸ List.pairwise_lt_range
      rcases List.mem_append.1 hj' with hmem | hmem
      · exact hmem
      · rcases List.mem_cons.1 hmem with heq | hmem
        · omega
        · have := List.rel_of_pairwise_cons (List.pairwise_append.1 hsorted).2.1 hmem
          omega
    have hnone := hfront j hmem
    rw [hd] at hnone
    exact entryError?_eq_none_iff_inPlace.1 hnone
  · intro h
    obtain ⟨i, e, he, herror, hbefore⟩ := h
    have hlt : i < entries.size := (Array.getElem?_eq_some_iff.1 he).1
    refine ⟨List.range i, i, List.range' (i + 1) (entries.size - i - 1), ?_, ?_, fun j hj => ?_⟩
    · have happend := List.range'_append_1 (s := 0) (m := i) (n := entries.size - i)
      rw [Nat.zero_add, Nat.add_sub_cancel' (Nat.le_of_lt hlt)] at happend
      rw [List.range_eq_range', List.range_eq_range', ← List.range'_succ,
        Nat.sub_add_cancel (by omega), happend]
    · rw [he]
      exact entryError?_eq_some_iff.2 herror
    · cases hd : entries[j]? with
      | none => rfl
      | some d => exact entryError?_eq_none_iff_inPlace.2 (hbefore j d (List.mem_range.1 hj) hd)

end Tree

open TypeLint.Tree

/-! ## A run of the builder -/

namespace TreeBuilder

/-- After any run of pushes the builder has the entries in order and the first fault among them. -/
theorem foldl_push (source : String) (entries : List Entry) :
    (entries.foldl push (start source)).source = source ∧
    (entries.foldl push (start source)).entries = entries.toArray ∧
    (entries.foldl push (start source)).error = firstError? source entries.toArray := by
  induction entries using List.reverseRecOn with
  | nil => exact ⟨rfl, rfl, rfl⟩
  | append_singleton l e ih =>
    obtain ⟨hsource, hentries, herror⟩ := ih
    rw [List.foldl_concat, ← List.push_toArray, firstError?_push]
    refine ⟨hsource, congrArg (·.push e) hentries, ?_⟩
    show Option.or _ (entryError? _ _ _ e) = _
    rw [herror, hsource, hentries]

end TreeBuilder

namespace SyntaxTree

theorem ofEntries_cases (source : String) (entries : Array Entry) :
    (∃ error, firstError? source entries = some error ∧ ofEntries source entries = .error error) ∨
    (firstError? source entries = none ∧ entries.size = 0 ∧
      ofEntries source entries = .error .empty) ∨
    (firstError? source entries = none ∧ 0 < entries.size ∧
      ∃ t, ofEntries source entries = .ok t ∧ t.source = source ∧ t.entries = entries) := by
  obtain ⟨hsource, hentries, herror⟩ := TreeBuilder.foldl_push source entries.toList
  rw [Array.foldl_toList] at hsource hentries herror
  rw [Array.toArray_toList] at hentries herror
  unfold ofEntries TreeBuilder.finish
  split
  next error h => exact Or.inl ⟨error, herror.symm.trans h, rfl⟩
  next h =>
    have hnone := herror.symm.trans h
    split
    next hne =>
      rw [hentries] at hne
      exact Or.inr (Or.inr ⟨hnone, hne, _, rfl, hsource, hentries⟩)
    next hne =>
      rw [hentries] at hne
      exact Or.inr (Or.inl ⟨hnone, by omega, rfl⟩)

end SyntaxTree

/-! ## Parents, children and spans -/

namespace Node

variable {t : SyntaxTree}

theorem map_id_filterMap_node? {ids : List Nat} (h : ∀ i ∈ ids, i < t.entries.size) :
    (ids.filterMap t.node?).map (·.id) = ids := by
  induction ids with
  | nil => rfl
  | cons i ids ih =>
    have hi : t.node? i = some ⟨i, h i List.mem_cons_self⟩ := dif_pos _
    rw [List.filterMap_cons_some hi, List.map_cons,
      ih fun j hj => h j (List.mem_cons_of_mem _ hj)]

/-- The children of a node are the entries that name it as their parent, in order. -/
theorem map_id_children (n : Node t) :
    n.children.map (·.id) =
      (List.range t.entries.size).filter fun i => t.entries[i]?.bind Entry.parent == some n.id := by
  rw [children, t.childIds_eq, getElem?_childLists n.isLt, Option.getD_some]
  refine map_id_filterMap_node? fun i hi => ?_
  exact List.mem_range.1 (List.mem_filter.1 hi).1

/-- The span of a node lies within the text and between characters. -/
theorem span_fits (n : Node t) : Fits t.source n.span :=
  (t.coherent n.id n.entry n.getElem?_id).1

theorem span_start_le_stop (n : Node t) : n.span.start ≤ n.span.stop :=
  Span.between_start_le_stop _ _

/-- A node lies within every node above it. -/
theorem contains_of_mem_ancestors (n : Node t) :
    ∀ a ∈ n.ancestors, a.span.contains n.span = true := by
  intro a ha
  cases hp : n.parent with
  | none =>
    rw [ancestors_of_parent_none hp] at ha
    cases ha
  | some p =>
    rw [ancestors_of_parent_some hp] at ha
    rcases List.mem_cons.1 ha with rfl | ha
    · exact parent_contains hp
    · exact Span.contains_trans (contains_of_mem_ancestors p a ha) (parent_contains hp)
termination_by n.id
decreasing_by exact parent_lt hp

/-- The root is above every other node. -/
theorem root_mem_ancestors (n : Node t) : n = t.root ∨ t.root ∈ n.ancestors := by
  have hplace := inPlace_iff.2 (t.coherent n.id n.entry n.getElem?_id)
  rcases Nat.eq_zero_or_pos n.id with hzero | hpos
  · left
    cases n
    cases hzero
    rfl
  · right
    obtain ⟨p, d, hp, hlt, hd, -⟩ := hplace.later hpos
    have hparent : n.parent = some ⟨p, (Array.getElem?_eq_some_iff.1 hd).1⟩ :=
      parent_eq_some_iff.2 hp
    rw [ancestors_of_parent_some hparent]
    rcases root_mem_ancestors ⟨p, (Array.getElem?_eq_some_iff.1 hd).1⟩ with heq | hmem
    · exact heq ▸ List.mem_cons_self
    · exact List.mem_cons_of_mem _ hmem
termination_by n.id

/-- What holds of the nodes on the stack, and of whatever follows from a node of which it holds,
holds of every node that a walk sees. -/
theorem forall_mem_visit {next : Node t → List (Node t)} {P : Node t → Prop}
    (hnext : ∀ n, P n → ∀ c ∈ next n, P c) :
    ∀ (steps : Nat) (stack : List (Node t)), (∀ n ∈ stack, P n) → ∀ m ∈ visit next steps stack, P m
  | 0, _, _, m, hm => by cases hm
  | _ + 1, [], _, m, hm => by cases hm
  | steps + 1, n :: rest, hstack, m, hm => by
    rw [visit] at hm
    have hn : P n := hstack n List.mem_cons_self
    rcases List.mem_cons.1 hm with rfl | hm
    · exact hn
    · refine forall_mem_visit hnext steps (next n ++ rest) (fun k hk => ?_) m hm
      rcases List.mem_append.1 hk with hk | hk
      · exact hnext n hn k hk
      · exact hstack k (List.mem_cons_of_mem _ hk)

/-- Everything below a node lies within it. -/
theorem contains_of_mem_descendants (n : Node t) :
    ∀ d ∈ n.descendants, n.span.contains d.span = true := by
  refine forall_mem_visit (P := fun d => n.span.contains d.span = true) ?_ t.size [n] ?_
  · intro d hd c hc
    exact Span.contains_trans hd (parent_contains (mem_children_iff.1 hc))
  · intro d hd
    rw [List.mem_singleton.1 hd]
    exact Span.contains_refl _

end Node

/-- **Exactly the well-formed lists of entries are trees.** Entries that are pushed one by one make a
tree exactly when there is one and each is in place. Otherwise the answer is the fault of the first
entry that is not, or that the list is empty. The tree has the entries it was made of; the children of
a node are those that name it as their parent, in the order of the pushes; there is one root, above
every other node; and a node lies within every node above it and holds every node below it. -/
theorem ofEntries_ok_iff_inPlace (source : String) (entries : Array Entry) :
    ((∃ t, SyntaxTree.ofEntries source entries = .ok t) ↔
      0 < entries.size ∧ ∀ i e, entries[i]? = some e → InPlace source entries i e) ∧
    (∀ error, SyntaxTree.ofEntries source entries = .error error ↔
      (entries.size = 0 ∧ error = .empty) ∨
      ∃ i e, entries[i]? = some e ∧ Misplaced source entries i e error ∧
        ∀ j d, j < i → entries[j]? = some d → InPlace source entries j d) ∧
    ∀ t, SyntaxTree.ofEntries source entries = .ok t →
      t.source = source ∧ t.entries = entries ∧
      ∀ n : Node t,
        n.children.map (·.id) = ((List.range entries.size).filter fun i =>
          entries[i]?.bind Entry.parent == some n.id) ∧
        (n = t.root ∨ t.root ∈ n.ancestors) ∧
        (∀ a ∈ n.ancestors, a.span.contains n.span = true) ∧
        ∀ d ∈ n.descendants, n.span.contains d.span = true := by
  have hplaces : firstError? source entries = none ↔
      ∀ i e, entries[i]? = some e → InPlace source entries i e := by
    rw [firstError?_eq_none_iff]
    exact forall₃_congr fun _ _ _ => inPlace_iff.symm
  refine ⟨?_, fun error => ?_, fun t ht => ?_⟩
  · rw [← hplaces]
    rcases SyntaxTree.ofEntries_cases source entries with
      ⟨e, hfirst, hres⟩ | ⟨hfirst, hsize, hres⟩ | ⟨hfirst, hsize, t, hres, -, -⟩
    · simp [hres, hfirst]
    · simp [hres, hsize]
    · simp [hres, hsize, hfirst]
  · rw [← firstError?_eq_some_iff]
    rcases SyntaxTree.ofEntries_cases source entries with
      ⟨e, hfirst, hres⟩ | ⟨hfirst, hsize, hres⟩ | ⟨hfirst, hsize, t, hres, -, -⟩
    · have hne : entries.size ≠ 0 := by
        obtain ⟨i, d, hd, -⟩ := firstError?_eq_some_iff.1 hfirst
        have := (Array.getElem?_eq_some_iff.1 hd).1
        omega
      simp [hres, hfirst, hne]
    · simp [hres, hfirst, hsize, eq_comm]
    · simp [hres, hfirst, Nat.pos_iff_ne_zero.1 hsize]
  · rcases SyntaxTree.ofEntries_cases source entries with
      ⟨e, -, hres⟩ | ⟨-, -, hres⟩ | ⟨-, -, t', hres, hsource, hentries⟩
    · rw [hres] at ht
      cases ht
    · rw [hres] at ht
      cases ht
    · rw [hres] at ht
      cases ht
      refine ⟨hsource, hentries, fun n => ⟨?_, n.root_mem_ancestors, n.contains_of_mem_ancestors,
        n.contains_of_mem_descendants⟩⟩
      rw [n.map_id_children, hentries]

/-- Two words over a text with a character of two bytes, the second with a letter in it. -/
def letterEntries : Array Entry :=
  #[⟨none, "program", none, true, 0, 3⟩, ⟨some 0, "word", none, true, 0, 1⟩,
    ⟨some 0, "word", none, true, 1, 3⟩, ⟨some 2, "letter", none, true, 1, 3⟩]

theorem ofEntries_ok_iff_inPlace_letters :
    ∃ t, SyntaxTree.ofEntries "aé" letterEntries = .ok t ∧ t.source = "aé" ∧
      t.root.children.map (·.id) = [1, 2] ∧
      ∀ d ∈ t.root.descendants, t.root.span.contains d.span = true := by
  obtain ⟨hok, -, htree⟩ := ofEntries_ok_iff_inPlace "aé" letterEntries
  have hcoherent : Coherent "aé" letterEntries := firstError?_eq_none_iff.1 (by decide +kernel)
  obtain ⟨t, ht⟩ := hok.2 ⟨by decide, fun i e he => inPlace_iff.2 (hcoherent i e he)⟩
  obtain ⟨hsource, -, hnodes⟩ := htree t ht
  obtain ⟨hchildren, -, -, hbelow⟩ := hnodes t.root
  have hchildIds : ((List.range letterEntries.size).filter fun i =>
      letterEntries[i]?.bind Entry.parent == some 0) = [1, 2] := by decide
  exact ⟨t, ht, hsource, hchildren.trans hchildIds, hbelow⟩

end TypeLint
