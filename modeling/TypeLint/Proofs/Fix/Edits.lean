import TypeLint.Fix.Basic
import TypeLint.Proofs.Span.Overlap

/-!
# When edits can be made together

`applyEdits` sorts the edits, compares neighbours and then goes from left to right. What it decides
has a description without sorting and without neighbours, `applyEdits_ok_iff`: the edits can be made
exactly when no two of them overlap and each finds under its span the text it expects.

The step that needs an argument is from neighbours to all pairs (`firstOverlap?_eq_none_iff`). It
holds for spans given the right way round, and an edit that finds its text has such a span.
-/

namespace TypeLint

namespace Edit

/-- The edit finds the text it expects. -/
def Fits (source : String) (e : Edit) : Prop :=
  Text.slice? source e.span.start e.span.stop = some e.expected

/-- No two of the edits overlap. -/
def Apart (edits : List Edit) : Prop := edits.Pairwise fun a b => a.span.overlaps b.span = false

theorem Fits.forward {source : String} {e : Edit} (h : e.Fits source) : e.span.Forward := by
  obtain ⟨p, q, -, hstart, hstop⟩ := Text.slice?_eq_some_iff.1 h
  show e.span.start ≤ e.span.stop
  omega

/-! ## Sorting -/

theorem sorted_perm (edits : List Edit) : (sorted edits).Perm edits := List.mergeSort_perm _ _

theorem mem_sorted {edits : List Edit} {e : Edit} : e ∈ sorted edits ↔ e ∈ edits :=
  (sorted_perm edits).mem_iff

theorem pairwise_sorted (edits : List Edit) :
    (sorted edits).Pairwise fun a b => a.span.before b.span = true :=
  List.pairwise_mergeSort (fun a b c => Span.before_trans a.span b.span c.span)
    (fun a b => Span.before_total a.span b.span) _

/-- Being apart does not depend on the order of the edits. -/
theorem apart_perm {l l' : List Edit} (h : l.Perm l') : Apart l ↔ Apart l' :=
  h.pairwise_iff fun {a b} hab => by rw [Span.overlaps_comm]; exact hab

/-! ## Neighbours and pairs -/

theorem firstOverlap?_eq_none_of_apart :
    ∀ {l : List Edit}, Apart l → firstOverlap? l = none
  | [], _ => rfl
  | [_], _ => rfl
  | a :: b :: l, h => by
    obtain ⟨ha, hl⟩ := List.pairwise_cons.1 h
    have hab := ha b (List.mem_cons_self ..)
    rw [firstOverlap?, if_neg (by rw [hab]; exact Bool.false_ne_true)]
    exact firstOverlap?_eq_none_of_apart hl

/-- In sorted edits whose neighbours do not overlap, no two overlap. -/
theorem apart_of_firstOverlap?_eq_none :
    ∀ {l : List Edit}, l.Pairwise (fun a b => a.span.before b.span = true) →
      (∀ e ∈ l, e.span.Forward) → firstOverlap? l = none → Apart l
  | [], _, _, _ => List.Pairwise.nil
  | [_], _, _, _ => List.pairwise_singleton _ _
  | a :: b :: l, hs, hf, h => by
    obtain ⟨ha, hbl⟩ := List.pairwise_cons.1 hs
    rw [firstOverlap?] at h
    split at h
    next => exact absurd h (by simp)
    next hab =>
      have hab : a.span.overlaps b.span = false := Bool.eq_false_iff.2 hab
      have hrest := apart_of_firstOverlap?_eq_none hbl
        (fun e he => hf e (List.mem_cons_of_mem _ he)) h
      refine List.pairwise_cons.2 ⟨fun c hc => ?_, hrest⟩
      rcases List.mem_cons.1 hc with rfl | hc
      · exact hab
      · -- `b` lies between `a` and `c`
        exact Span.not_overlaps_of_between (hf a (by simp)) (hf b (by simp)) (hf c (by simp [hc]))
          (ha b (List.mem_cons_self ..)) ((List.pairwise_cons.1 hbl).1 c hc) hab
          ((List.pairwise_cons.1 hrest).1 c hc)

/-- Comparing neighbours in sorted order finds an overlap exactly when there is one. -/
theorem firstOverlap?_eq_none_iff {edits : List Edit} (hf : ∀ e ∈ edits, e.span.Forward) :
    firstOverlap? (sorted edits) = none ↔ Apart edits := by
  rw [← apart_perm (sorted_perm edits)]
  constructor
  · exact apart_of_firstOverlap?_eq_none (pairwise_sorted edits)
      fun e he => hf e (mem_sorted.1 he)
  · exact firstOverlap?_eq_none_of_apart

/-- An overlap that is found is one of two edits, the first before the second in the list. -/
theorem exists_of_firstOverlap?_eq_some {s t : Span} :
    ∀ {l : List Edit}, firstOverlap? l = some (s, t) →
      ∃ a b, [a, b].Sublist l ∧ a.span.overlaps b.span = true ∧ a.span = s ∧ b.span = t
  | [], h => by cases h
  | [_], h => by cases h
  | a :: b :: l, h => by
    rw [firstOverlap?] at h
    split at h
    next hab =>
      cases h
      exact ⟨a, b, by simp, hab, rfl, rfl⟩
    next =>
      obtain ⟨c, d, hsub, hcd⟩ := exists_of_firstOverlap?_eq_some h
      exact ⟨c, d, hsub.cons _, hcd⟩

/-! ## Making the edits -/

/-- Going from left to right succeeds exactly when every edit finds its text. -/
theorem splice_ok_iff (source : String) :
    ∀ (l : List Edit) (cursor : Nat),
      (∃ t, splice source cursor l = .ok t) ↔ ∀ e ∈ l, e.Fits source
  | [], cursor => by simp [splice]
  | e :: l, cursor => by
    have ih := splice_ok_iff source l e.span.stop
    rw [List.forall_mem_cons, ← ih, splice, Fits]
    split
    next hnone => simp [hnone]
    next found hfound =>
      split
      next hne =>
        rw [hfound, Option.some.injEq]
        have hne : found ≠ e.expected := by simpa using hne
        simp [hne]
      next heq =>
        have heq : found = e.expected := by simpa using heq
        rw [hfound, heq]
        cases htail : splice source e.span.stop l with
        | ok tail => simp [bind, Except.bind, pure, Except.pure]
        | error err => simp [bind, Except.bind]

end Edit

/-- Edits can be made together exactly when no two overlap and each finds the text it expects. -/
theorem applyEdits_ok_iff {source : String} {edits : List Edit} :
    (∃ t, applyEdits source edits = .ok t) ↔
      Edit.Apart edits ∧ ∀ e ∈ edits, e.Fits source := by
  have hsplice : (∃ t, Edit.splice source 0 (Edit.sorted edits) = .ok t) ↔
      ∀ e ∈ edits, e.Fits source := by
    rw [Edit.splice_ok_iff]
    simp only [Edit.mem_sorted]
  unfold applyEdits
  simp only
  split
  next first second hov =>
    constructor
    · intro h
      obtain ⟨t, h⟩ := h
      cases h
    · intro h
      obtain ⟨hapart, hfits⟩ := h
      have hnone := (Edit.firstOverlap?_eq_none_iff fun e he => (hfits e he).forward).2 hapart
      rw [hov] at hnone
      cases hnone
  next hnone =>
    rw [hsplice]
    constructor
    · intro hfits
      exact ⟨(Edit.firstOverlap?_eq_none_iff fun e he => (hfits e he).forward).1 hnone, hfits⟩
    · exact fun h => h.2

/-- Edits that all find their text fail in one way only: two of them overlap. -/
theorem exists_overlap_of_applyEdits_error {source : String} {edits : List Edit} {e : EditError}
    (hfits : ∀ e ∈ edits, e.Fits source) (h : applyEdits source edits = .error e) :
    ∃ a b, [a, b].Sublist (Edit.sorted edits) ∧ a.span.overlaps b.span = true ∧
      e = .overlap a.span b.span := by
  unfold applyEdits at h
  simp only at h
  split at h
  next first second hov =>
    cases h
    obtain ⟨a, b, hsub, hab, rfl, rfl⟩ := Edit.exists_of_firstOverlap?_eq_some hov
    exact ⟨a, b, hsub, hab, rfl⟩
  next =>
    obtain ⟨t, ht⟩ := (Edit.splice_ok_iff source (Edit.sorted edits) 0).2 fun e he =>
      hfits e (Edit.mem_sorted.1 he)
    rw [h] at ht
    cases ht

/-! ## The span of a fix -/

namespace Fix

theorem span?_eq_none_iff {fix : Fix} : fix.span? = none ↔ fix.edits = [] := by
  unfold span?
  split
  next h => simp [h]
  next h => simp [h]

theorem foldl_cover_contains :
    ∀ (l : List Edit) (s : Span),
      (l.foldl (fun acc e => acc.cover e.span) s).contains s = true ∧
      ∀ e ∈ l, (l.foldl (fun acc e => acc.cover e.span) s).contains e.span = true
  | [], s => ⟨Span.contains_refl s, fun e he => absurd he (by simp)⟩
  | a :: l, s => by
    rw [List.foldl_cons]
    obtain ⟨hacc, hl⟩ := foldl_cover_contains l (s.cover a.span)
    refine ⟨Span.contains_trans hacc (Span.cover_contains_left s a.span), fun e he => ?_⟩
    rcases List.mem_cons.1 he with rfl | he
    · exact Span.contains_trans hacc (Span.cover_contains_right s e.span)
    · exact hl e he

/-- The span of a fix holds every edit of it. -/
theorem contains_of_span? {fix : Fix} {s : Span} {e : Edit} (h : fix.span? = some s)
    (he : e ∈ fix.edits) : s.contains e.span = true := by
  unfold span? at h
  split at h
  next => cases h
  next first rest hedits =>
    cases h
    rw [hedits] at he
    obtain ⟨hfirst, hrest⟩ := foldl_cover_contains rest (first.span.cover first.span)
    rcases List.mem_cons.1 he with rfl | he
    · exact Span.contains_trans hfirst (Span.cover_contains_left _ _)
    · exact hrest e he

end Fix

end TypeLint
