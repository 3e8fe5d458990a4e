import Mathlib
import TypeLint.Proofs.Fix.Edits

/-!
# Edits are made simultaneously

`applyEdits` copies the text from left to right, with the replacements in place of what the edits
cover. What comes out is described here without a cursor and without slicing: `Edit.Woven` says that
two texts agree piece by piece between the edits, and that at each edit one has the text that is
expected and the other the replacement.

The copy is such a text (`splice_woven`). From there on only the pieces matter. Making the edits one
after another, the last one first, gives the same text, because an edit on the right does not move
the ones on its left (`Woven.foldr_replaceIn?`); and the sizes add up (`Woven.size_add`).

The copy takes pieces of the text between the edits without asking whether they exist. They do:
`Edit.splice?` has no answer where one is missing, and it always answers (`splice?_eq_some`).
-/

namespace TypeLint

/-! ## Front and back of a text -/

namespace Text

theorem slice?_front (p q : String) : slice? (p ++ q) 0 p.utf8ByteSize = some p := by
  rw [slice?_eq_some_iff]
  exact ⟨"", q, by simp, by simp, by simp⟩

theorem slice?_back (p q : String) :
    slice? (p ++ q) p.utf8ByteSize (p ++ q).utf8ByteSize = some q := by
  rw [slice?_eq_some_iff]
  exact ⟨p, "", by simp, rfl, String.utf8ByteSize_append⟩

/-- A text is cut in one way at a given size. -/
theorem append_inj_of_size {p q p' q' : String} (h : p ++ q = p' ++ q')
    (hsize : p.utf8ByteSize = p'.utf8ByteSize) : p = p' ∧ q = q' := by
  have hp : some p = some p' := by rw [← slice?_front p q, ← slice?_front p' q', h, hsize]
  have hq : some q = some q' := by rw [← slice?_back p q, ← slice?_back p' q', h, hsize]
  exact ⟨Option.some.inj hp, Option.some.inj hq⟩

/-- A piece that starts where the front part ends is the next piece of the text. -/
theorem exists_of_slice?_append {front old text : String} {stop : Nat}
    (h : slice? (front ++ old) front.utf8ByteSize stop = some text) :
    ∃ rest, old = text ++ rest ∧ stop = front.utf8ByteSize + text.utf8ByteSize := by
  obtain ⟨p, rest, hcut, hstart, hstop⟩ := slice?_eq_some_iff.1 h
  rw [String.append_assoc] at hcut
  obtain ⟨rfl, rfl⟩ := append_inj_of_size hcut hstart
  exact ⟨rest, rfl, hstop⟩

theorem exists_slice? {source : String} {a b : Nat} (hle : a ≤ b) (ha : IsBoundary source a)
    (hb : IsBoundary source b) : ∃ piece, slice? source a b = some piece :=
  ⟨_, dif_pos ⟨hle, ha, hb⟩⟩

/-- What a slice says about its own ends. -/
theorem boundaries_of_slice? {source piece : String} {a b : Nat}
    (h : slice? source a b = some piece) : IsBoundary source a ∧ IsBoundary source b := by
  obtain ⟨p, q, rfl, rfl, rfl⟩ := slice?_eq_some_iff.1 h
  refine ⟨isBoundary_iff.2 ⟨p, piece ++ q, String.append_assoc .., rfl⟩, ?_⟩
  exact isBoundary_iff.2 ⟨p ++ piece, q, rfl, String.utf8ByteSize_append.symm⟩

end Text

namespace Edit

/-! ## From left to right -/

/-- Each edit stops where the next one starts, or earlier. -/
def InOrder (edits : List Edit) : Prop := edits.Pairwise fun a b => a.span.stop ≤ b.span.start

/-- Sorted edits that do not overlap are in order. -/
theorem inOrder_of_apart {edits : List Edit}
    (hsorted : edits.Pairwise fun a b => a.span.before b.span = true)
    (hf : ∀ e ∈ edits, e.span.Forward) (hapart : Apart edits) : InOrder edits := by
  refine (hsorted.and hapart).imp_of_mem fun {a b} ha hb hab => ?_
  exact Span.stop_le_of_before (hf a ha) (hf b hb) hab.1 hab.2

/-- Whether edits overlap does not depend on which comes first. -/
instance : Std.Symm fun a b : Edit => a.span.overlaps b.span = false :=
  ⟨fun a b h => by rw [Span.overlaps_comm]; exact h⟩

/-- Edits that do not overlap can be sorted in one way only. -/
theorem eq_sorted {edits l : List Edit} (hf : ∀ e ∈ edits, e.span.Forward) (hapart : Apart edits)
    (hperm : l.Perm edits) (hl : l.Pairwise fun a b => a.span.before b.span = true) :
    l = sorted edits := by
  have hsame : l.Perm (sorted edits) := hperm.trans (sorted_perm edits).symm
  refine List.Perm.eq_of_pairwise (fun a b ha hb hab hba => ?_) hl (pairwise_sorted edits) hsame
  -- edits that come before each other have equal spans, and equal spans overlap
  have hspan : a.span = b.span := Span.before_antisymm hab hba
  have ha' : a ∈ edits := hperm.mem_iff.1 ha
  have hb' : b ∈ edits := mem_sorted.1 hb
  by_contra hne
  have hno : a.span.overlaps b.span = false := hapart.forall ha' hb' hne
  rw [hspan, Span.overlaps_self (hf b hb')] at hno
  cases hno

/-! ## Pieces -/

/-- `old` is the text from byte `offset` on, and `new` is that text with the edits made: between the
edits the two agree, and at an edit one has what is expected and the other the replacement. -/
inductive Woven : (offset : Nat) → List Edit → (old new : String) → Prop where
  | rest (offset : Nat) (text : String) : Woven offset [] text text
  | edit {offset : Nat} {e : Edit} {edits : List Edit} {old new : String} (kept : String)
      (start : e.span.start = offset + kept.utf8ByteSize)
      (stop : e.span.stop = e.span.start + e.expected.utf8ByteSize)
      (following : Woven e.span.stop edits old new) :
      Woven offset (e :: edits) (kept ++ e.expected ++ old) (kept ++ e.replacement ++ new)

/-- The text grows by what is put in and shrinks by what is covered. -/
theorem Woven.size_add {offset : Nat} {edits : List Edit} {old new : String}
    (h : Woven offset edits old new) :
    new.utf8ByteSize + (edits.map (·.span.length)).sum =
      old.utf8ByteSize + (edits.map (·.replacement.utf8ByteSize)).sum := by
  induction h with
  | rest => rfl
  | @edit _ e _ _ _ kept start stop following ih =>
    have hlength : e.span.length = e.span.stop - e.span.start := rfl
    simp only [List.map_cons, List.sum_cons, String.utf8ByteSize_append]
    omega

/-- A piece in front of all edits stays. -/
theorem Woven.keep {offset : Nat} {edits : List Edit} {old new : String} (kept : String)
    (h : Woven (offset + kept.utf8ByteSize) edits old new) :
    Woven offset edits (kept ++ old) (kept ++ new) := by
  cases h with
  | rest => exact .rest offset _
  | @edit _ e edits old new more start stop following =>
    have hstart : e.span.start = offset + (kept ++ more).utf8ByteSize := by
      rw [String.utf8ByteSize_append]
      omega
    have hwoven := Woven.edit (kept ++ more) hstart stop following
    simp only [String.append_assoc] at hwoven ⊢
    exact hwoven

/-- The edits that a text is woven with follow each other from its offset on. -/
theorem Woven.inOrder {offset : Nat} {edits : List Edit} {old new : String}
    (h : Woven offset edits old new) : (∀ e ∈ edits, offset ≤ e.span.start) ∧ InOrder edits := by
  induction h with
  | rest => exact ⟨fun e he => (List.not_mem_nil he).elim, List.Pairwise.nil⟩
  | @edit offset e edits _ _ kept start stop _ ih =>
    refine ⟨List.forall_mem_cons.2 ⟨by omega, fun e' he' => ?_⟩, List.pairwise_cons.2 ih⟩
    have := ih.1 e' he'
    omega

/-- Makes one edit in a text, whatever stands there; there is no answer where the text cannot be cut
at its span. -/
def replaceIn? (e : Edit) (text : String) : Option String := do
  let front ← Text.slice? text 0 e.span.start
  let back ← Text.slice? text e.span.stop text.utf8ByteSize
  return front ++ e.replacement ++ back

theorem replaceIn?_append {e : Edit} {front covered back : String}
    (hstart : e.span.start = front.utf8ByteSize)
    (hstop : e.span.stop = front.utf8ByteSize + covered.utf8ByteSize) :
    e.replaceIn? (front ++ covered ++ back) = some (front ++ e.replacement ++ back) := by
  have hfront := Text.slice?_front front (covered ++ back)
  have hback := Text.slice?_back (front ++ covered) back
  rw [String.utf8ByteSize_append, ← hstop] at hback
  rw [← hstart, ← String.append_assoc] at hfront
  unfold replaceIn?
  rw [hfront, hback]
  rfl

/-- Making the edits one after another, from the last to the first, gives the same text: the ones on
the left are still where they were. -/
theorem Woven.foldr_replaceIn? {offset : Nat} {edits : List Edit} {old new : String}
    (h : Woven offset edits old new) :
    ∀ front : String, front.utf8ByteSize = offset →
      edits.foldr (fun e text? => text?.bind e.replaceIn?) (some (front ++ old)) =
        some (front ++ new) := by
  induction h with
  | rest => exact fun front _ => rfl
  | @edit offset e edits old new kept start stop following ih =>
    intro front hfront
    have hsize : (front ++ kept ++ e.expected).utf8ByteSize = e.span.stop := by
      rw [String.utf8ByteSize_append, String.utf8ByteSize_append]
      omega
    have hright := ih (front ++ kept ++ e.expected) hsize
    have hleft : e.replaceIn? (front ++ kept ++ e.expected ++ new) =
        some (front ++ kept ++ e.replacement ++ new) :=
      replaceIn?_append (by rw [String.utf8ByteSize_append]; omega)
        (by rw [String.utf8ByteSize_append]; omega)
    simp only [← String.append_assoc] at hright ⊢
    rw [List.foldr_cons, hright, Option.bind_some, hleft]

/-- Every edit finds what it expects in the text that it was woven into. -/
theorem Woven.fits {offset : Nat} {edits : List Edit} {old new : String}
    (h : Woven offset edits old new) :
    ∀ front : String, front.utf8ByteSize = offset → ∀ e ∈ edits, e.Fits (front ++ old) := by
  induction h with
  | rest => exact fun front _ e he => by cases he
  | @edit offset e edits old new kept start stop following ih =>
    intro front hfront e' he'
    have hsize : (front ++ kept ++ e.expected).utf8ByteSize = e.span.stop := by
      rw [String.utf8ByteSize_append, String.utf8ByteSize_append]
      omega
    rcases List.mem_cons.1 he' with rfl | he'
    · refine Text.slice?_eq_some_iff.2 ⟨front ++ kept, old, ?_, ?_, ?_⟩
      · simp only [String.append_assoc]
      · rw [String.utf8ByteSize_append]
        omega
      · rw [String.utf8ByteSize_append]
        omega
    · have hrest := ih (front ++ kept ++ e.expected) hsize e' he'
      simp only [String.append_assoc] at hrest ⊢
      exact hrest

/-! ## The copy -/

/-- The copy from byte `cursor` on is the rest of the text with the edits made. -/
theorem splice_woven {source : String} :
    ∀ {edits : List Edit} {front old : String}, source = front ++ old → InOrder edits →
      (∀ e ∈ edits, front.utf8ByteSize ≤ e.span.start) → (∀ e ∈ edits, e.Fits source) →
      ∃ new, splice source front.utf8ByteSize edits = .ok new ∧
        Woven front.utf8ByteSize edits old new
  | [], front, old, hsource, _, _, _ => by
    refine ⟨old, ?_, Woven.rest _ old⟩
    rw [splice, hsource, Text.slice?_back, Option.getD_some]
  | e :: edits, front, old, hsource, horder, hahead, hfits => by
    obtain ⟨hnext, horder⟩ := List.pairwise_cons.1 horder
    have hfit := hfits e (List.mem_cons_self ..)
    -- the piece that is kept lies between the cursor and the edit
    have hcursor : Text.IsBoundary source front.utf8ByteSize :=
      Text.isBoundary_iff.2 ⟨front, old, hsource, rfl⟩
    obtain ⟨kept, hkept⟩ := Text.exists_slice? (hahead e (List.mem_cons_self ..)) hcursor
      (Text.boundaries_of_slice? hfit).1
    obtain ⟨front', back, hcut, hfront, hstart⟩ := Text.slice?_eq_some_iff.1 hkept
    obtain ⟨before, rest, hcut', hbefore, hstop⟩ := Text.slice?_eq_some_iff.1 hfit
    obtain ⟨rfl, hold⟩ : front = front' ∧ old = kept ++ back :=
      Text.append_inj_of_size (by rw [← hsource, hcut, String.append_assoc]) hfront
    obtain ⟨-, hback⟩ : before = front ++ kept ∧ e.expected ++ rest = back :=
      Text.append_inj_of_size (by rw [← String.append_assoc, ← hcut', hcut])
        (by rw [String.utf8ByteSize_append]; omega)
    have hsize : (front ++ kept ++ e.expected).utf8ByteSize = e.span.stop := by
      rw [String.utf8ByteSize_append, String.utf8ByteSize_append]
      omega
    have hsource' : source = front ++ kept ++ e.expected ++ rest := by
      rw [hcut, ← hback, ← String.append_assoc]
    obtain ⟨new, hsplice, hwoven⟩ := splice_woven hsource' horder
      (fun e' he' => hsize ▸ hnext e' he') fun e' he' => hfits e' (List.mem_cons_of_mem _ he')
    rw [hsize] at hsplice hwoven
    refine ⟨kept ++ e.replacement ++ new, ?_, ?_⟩
    · have hfound : Text.slice? source e.span.start e.span.stop = some e.expected := hfit
      rw [splice, hfound, hkept, hsplice]
      simp only [bne_self_eq_false, Bool.false_eq_true, if_false, Option.getD_some]
      rfl
    · rw [hold, ← hback, ← String.append_assoc]
      exact Woven.edit kept hstart (by omega) hwoven

/-- The copy, except that there is no answer where a piece to be copied does not exist. -/
def splice? (source : String) : (cursor : Nat) → List Edit → Option (Except EditError String)
  | cursor, [] => (Text.slice? source cursor source.utf8ByteSize).map .ok
  | cursor, e :: rest =>
    match Text.slice? source e.span.start e.span.stop with
    | none => some (.error (.outOfBounds e.span source.utf8ByteSize))
    | some found =>
      if found != e.expected then some (.error (.sourceDrift e.span e.expected found))
      else do
        let kept ← Text.slice? source cursor e.span.start
        let copied ← splice? source e.span.stop rest
        return copied.map fun tail => kept ++ e.replacement ++ tail

/-- Every piece that the copy takes exists, also where it ends in an error further on. -/
theorem splice?_eq_some {source : String} :
    ∀ {edits : List Edit} {cursor : Nat}, Text.IsBoundary source cursor → InOrder edits →
      (∀ e ∈ edits, cursor ≤ e.span.start) →
      splice? source cursor edits = some (splice source cursor edits)
  | [], cursor, hcursor, _, _ => by
    obtain ⟨piece, hpiece⟩ := Text.exists_slice? hcursor.le_size hcursor
      (Text.isBoundary_iff.2 ⟨source, "", by simp, rfl⟩)
    rw [splice?, splice, hpiece]
    rfl
  | e :: edits, cursor, hcursor, horder, hahead => by
    obtain ⟨hnext, horder⟩ := List.pairwise_cons.1 horder
    rw [splice?, splice]
    cases hfound : Text.slice? source e.span.start e.span.stop with
    | none => rfl
    | some found =>
      obtain ⟨hstart, hstop⟩ := Text.boundaries_of_slice? hfound
      obtain ⟨kept, hkept⟩ := Text.exists_slice? (hahead e (List.mem_cons_self ..)) hcursor hstart
      have ih := splice?_eq_some hstop horder hnext
      simp only [hkept, ih, Option.getD_some]
      split
      next => rfl
      next => cases splice source e.span.stop edits <;> rfl

/-! ## Refusals -/

/-- Edits are apart unless two of them, at different places in the list, overlap. -/
theorem not_apart_iff {edits : List Edit} :
    ¬ Apart edits ↔ ∃ (i j : Nat) (a b : Edit), i ≠ j ∧ edits[i]? = some a ∧ edits[j]? = some b ∧
      a.span.overlaps b.span = true := by
  constructor
  · intro h
    by_contra hnone
    refine h (List.pairwise_iff_getElem.2 fun i j hi hj hij => ?_)
    rw [Bool.eq_false_iff]
    intro hov
    exact hnone ⟨i, j, edits[i], edits[j], by omega, List.getElem?_eq_getElem hi,
      List.getElem?_eq_getElem hj, hov⟩
  · rintro ⟨i, j, a, b, hij, ha, hb, hov⟩ hapart
    obtain ⟨hi, rfl⟩ := List.getElem?_eq_some_iff.1 ha
    obtain ⟨hj, rfl⟩ := List.getElem?_eq_some_iff.1 hb
    rcases Nat.lt_or_gt_of_ne hij with hlt | hgt
    · rw [List.pairwise_iff_getElem.1 hapart i j hi hj hlt] at hov
      cases hov
    · rw [Span.overlaps_comm, List.pairwise_iff_getElem.1 hapart j i hj hi hgt] at hov
      cases hov

/-- The copy complains about one edit at a time, never about two. -/
theorem splice_ne_overlap (source : String) (a b : Span) :
    ∀ (edits : List Edit) (cursor : Nat), splice source cursor edits ≠ .error (.overlap a b)
  | [], _ => by
    rw [splice]
    exact fun h => by cases h
  | e :: edits, cursor => by
    have ih := splice_ne_overlap source a b edits e.span.stop
    rw [splice]
    split
    next => exact fun h => by cases h
    next =>
      split
      next => exact fun h => by cases h
      next =>
        cases hrest : splice source e.span.stop edits with
        | ok tail => exact fun h => by cases h
        | error err =>
          intro h
          rw [hrest] at ih
          exact ih h

end Edit

theorem applyEdits_of_apart {source : String} {edits : List Edit}
    (h : Edit.firstOverlap? (Edit.sorted edits) = none) :
    applyEdits source edits = Edit.splice source 0 (Edit.sorted edits) := by
  unfold applyEdits
  simp only [h]

theorem applyEdits_of_overlap {source : String} {edits : List Edit} {a b : Span}
    (h : Edit.firstOverlap? (Edit.sorted edits) = some (a, b)) :
    applyEdits source edits = .error (.overlap a b) := by
  unfold applyEdits
  simp only [h]

/-- Edits are refused for the first two neighbours in sorted order that overlap. -/
theorem applyEdits_overlap_iff {source : String} {edits : List Edit} {a b : Span} :
    applyEdits source edits = .error (.overlap a b) ↔
      Edit.firstOverlap? (Edit.sorted edits) = some (a, b) := by
  refine ⟨fun h => ?_, applyEdits_of_overlap⟩
  cases hfirst : Edit.firstOverlap? (Edit.sorted edits) with
  | none =>
    rw [applyEdits_of_apart hfirst] at h
    exact absurd h (Edit.splice_ne_overlap source a b _ 0)
  | some pair =>
    rw [applyEdits_of_overlap hfirst] at h
    cases h
    rfl

/-- A fix looks at its edits in the same way. -/
theorem Fix.make_cases (description : String) (confidence : Confidence) (edits : List Edit) :
    (Edit.firstOverlap? (Edit.sorted edits) = none ∧
      ∃ fix, Fix.make description confidence edits = .ok fix) ∨
    ∃ a b, Edit.firstOverlap? (Edit.sorted edits) = some (a, b) ∧
      Fix.make description confidence edits = .error (.overlap a b) := by
  unfold Fix.make
  simp only
  split
  next a b h => exact Or.inr ⟨a, b, h, rfl⟩
  next h => exact Or.inl ⟨h, _, rfl⟩

theorem Fix.make_overlap_iff {description : String} {confidence : Confidence} {edits : List Edit}
    {a b : Span} :
    Fix.make description confidence edits = .error (.overlap a b) ↔
      Edit.firstOverlap? (Edit.sorted edits) = some (a, b) := by
  obtain ⟨hfirst, fix, hfix⟩ | ⟨a', b', hfirst, hfix⟩ := Fix.make_cases description confidence edits
  · simp [hfirst, hfix]
  · simp [hfirst, hfix]

theorem Fix.make_ok_iff {description : String} {confidence : Confidence} {edits : List Edit} :
    (∃ fix, Fix.make description confidence edits = .ok fix) ↔
      Edit.firstOverlap? (Edit.sorted edits) = none := by
  obtain ⟨hfirst, fix, hfix⟩ | ⟨a', b', hfirst, hfix⟩ := Fix.make_cases description confidence edits
  · simp [hfirst, hfix]
  · simp [hfirst, hfix]

/-- Makes all the edits at once, except that there is no answer where a piece to be copied does not
exist. -/
def applyEdits? (source : String) (edits : List Edit) : Option (Except EditError String) :=
  let edits := Edit.sorted edits
  match Edit.firstOverlap? edits with
  | some (first, second) => some (.error (.overlap first second))
  | none => Edit.splice? source 0 edits

section

variable {source : String} {edits : List Edit}

theorem inOrder_sorted (hf : ∀ e ∈ edits, e.span.Forward) (hapart : Edit.Apart edits) :
    Edit.InOrder (Edit.sorted edits) :=
  Edit.inOrder_of_apart (Edit.pairwise_sorted edits) (fun e he => hf e (Edit.mem_sorted.1 he))
    ((Edit.apart_perm (Edit.sorted_perm edits)).2 hapart)

/-- No piece is ever missing. -/
theorem applyEdits?_eq_some (hf : ∀ e ∈ edits, e.span.Forward) :
    applyEdits? source edits = some (applyEdits source edits) := by
  unfold applyEdits?
  simp only
  split
  next a b hfirst => rw [applyEdits_of_overlap hfirst]
  next hfirst =>
    have horder := inOrder_sorted hf ((Edit.firstOverlap?_eq_none_iff hf).1 hfirst)
    have hzero : Text.IsBoundary source 0 := Text.isBoundary_iff.2 ⟨"", source, by simp, rfl⟩
    rw [applyEdits_of_apart hfirst]
    exact Edit.splice?_eq_some hzero horder fun e _ => Nat.zero_le _

/-- The text that comes out is the old one with the edits made. -/
theorem woven_of_applyEdits_ok {t : String} (h : applyEdits source edits = .ok t) :
    Edit.Woven 0 (Edit.sorted edits) source t := by
  obtain ⟨hapart, hfits⟩ := applyEdits_ok_iff.1 ⟨t, h⟩
  have hf : ∀ e ∈ edits, e.span.Forward := fun e he => (hfits e he).forward
  have hsource : source = "" ++ source := String.empty_append.symm
  obtain ⟨new, hsplice, hwoven⟩ := Edit.splice_woven hsource (inOrder_sorted hf hapart)
    (fun e _ => Nat.zero_le _) fun e he => hfits e (Edit.mem_sorted.1 he)
  rw [applyEdits_of_apart ((Edit.firstOverlap?_eq_none_iff hf).2 hapart)] at h
  cases h.symm.trans hsplice
  exact hwoven

/-- Edits that a text is woven with can be made together and give the text that is woven, unless two
of them are the same insertion point. -/
theorem applyEdits_of_woven {new : String}
    (hdistinct : edits.Pairwise fun a b => a.span.start < b.span.stop)
    (h : Edit.Woven 0 edits source new) :
    Edit.Apart edits ∧ applyEdits source edits = .ok new := by
  have hfits : ∀ e ∈ edits, e.Fits source := by
    intro e he
    have hfit := h.fits "" rfl e he
    rwa [String.empty_append] at hfit
  have hf : ∀ e ∈ edits, e.span.Forward := fun e he => (hfits e he).forward
  have hpairs : edits.Pairwise fun a b =>
      a.span.before b.span = true ∧ a.span.overlaps b.span = false :=
    (h.inOrder.2.and hdistinct).imp_of_mem fun {a b} ha hb hab =>
      (Span.before_and_apart_iff (hf a ha) (hf b hb)).2 hab
  have hapart : Edit.Apart edits := hpairs.imp fun hab => hab.2
  obtain ⟨t, ht⟩ := applyEdits_ok_iff.2 ⟨hapart, hfits⟩
  have hwoven := woven_of_applyEdits_ok ht
  rw [← Edit.eq_sorted hf hapart (.refl _) (hpairs.imp fun hab => hab.1)] at hwoven
  -- both texts are what making the edits one by one gives
  have hsame := (hwoven.foldr_replaceIn? "" rfl).symm.trans (h.foldr_replaceIn? "" rfl)
  simp only [String.empty_append, Option.some.injEq] at hsame
  exact ⟨hapart, by rw [ht, hsame]⟩

/-- One edit replaces what it covers and nothing else. -/
theorem applyEdits_singleton (front old back new : String) :
    applyEdits (front ++ old ++ back)
      [⟨⟨front.utf8ByteSize, front.utf8ByteSize + old.utf8ByteSize⟩, new, old⟩] =
        .ok (front ++ new ++ back) := by
  refine (applyEdits_of_woven (List.pairwise_singleton _ _) ?_).2
  exact .edit front (Nat.zero_add _).symm rfl (.rest _ back)

end

/-- **Edits are made simultaneously.** Edits are refused for an overlap exactly when two of them
overlap, and a fix refuses the same edits for the same spans. Where none overlap, they are made
exactly when each lies within the text, cuts no character, and finds what it expects. No piece of the
text is ever missing. What comes out is the old text with every edit made in its place; it is what
making the edits one by one from the right gives, and its size is that of the old text less what the
edits cover plus what they put in. -/
theorem applyEdits_simultaneous (source : String) {edits : List Edit}
    (hf : ∀ e ∈ edits, e.span.Forward) :
    ((∃ a b, applyEdits source edits = .error (.overlap a b)) ↔
      ∃ (i j : Nat) (a b : Edit), i ≠ j ∧ edits[i]? = some a ∧ edits[j]? = some b ∧
        a.span.overlaps b.span = true) ∧
    (∀ description confidence a b,
      Fix.make description confidence edits = .error (.overlap a b) ↔
        applyEdits source edits = .error (.overlap a b)) ∧
    (∀ description confidence,
      (∃ fix, Fix.make description confidence edits = .ok fix) ↔ Edit.Apart edits) ∧
    (Edit.Apart edits →
      ((∃ t, applyEdits source edits = .ok t) ↔
        ∀ e ∈ edits, e.span.stop ≤ source.utf8ByteSize ∧ Text.IsBoundary source e.span.start ∧
          Text.IsBoundary source e.span.stop ∧
          Text.slice? source e.span.start e.span.stop = some e.expected)) ∧
    applyEdits? source edits = some (applyEdits source edits) ∧
    (∀ t, applyEdits source edits = .ok t →
      (∀ l : List Edit, l.Perm edits → l.Pairwise (fun a b => a.span.before b.span = true) →
        Edit.Woven 0 l source t ∧
        l.foldr (fun e text? => text?.bind e.replaceIn?) (some source) = some t) ∧
      t.utf8ByteSize + (edits.map (·.span.length)).sum =
        source.utf8ByteSize + (edits.map (·.replacement.utf8ByteSize)).sum) := by
  have hapart_iff := Edit.firstOverlap?_eq_none_iff hf
  refine ⟨?_, ?_, ?_, ?_, applyEdits?_eq_some hf, ?_⟩
  · rw [← Edit.not_apart_iff, ← hapart_iff]
    simp only [applyEdits_overlap_iff]
    cases Edit.firstOverlap? (Edit.sorted edits) with
    | none => simp
    | some pair => simpa using ⟨pair.1, pair.2, rfl⟩
  · intro description confidence a b
    rw [Fix.make_overlap_iff, applyEdits_overlap_iff]
  · intro description confidence
    rw [Fix.make_ok_iff, hapart_iff]
  · intro hapart
    rw [applyEdits_ok_iff]
    constructor
    · intro h e he
      obtain ⟨hstart, hstop⟩ := Text.boundaries_of_slice? (h.2 e he)
      exact ⟨hstop.le_size, hstart, hstop, h.2 e he⟩
    · exact fun h => ⟨hapart, fun e he => (h e he).2.2.2⟩
  · intro t ht
    have hwoven := woven_of_applyEdits_ok ht
    have hapart := (applyEdits_ok_iff.1 ⟨t, ht⟩).1
    refine ⟨fun l hperm hl => ?_, ?_⟩
    · rw [Edit.eq_sorted hf hapart hperm hl]
      have hfold := hwoven.foldr_replaceIn? "" rfl
      simp only [String.empty_append] at hfold
      exact ⟨hwoven, hfold⟩
    · have hsize := hwoven.size_add
      rw [((Edit.sorted_perm edits).map _).sum_nat, ((Edit.sorted_perm edits).map _).sum_nat]
        at hsize
      exact hsize

/-- An insertion before a replacement, a deletion and an insertion at the end, in no particular
order. -/
def mixedEdits : List Edit :=
  [⟨⟨3, 4⟩, "xyz", "b"⟩, ⟨⟨5, 5⟩, ")", ""⟩, ⟨⟨3, 3⟩, "(", ""⟩, ⟨⟨0, 1⟩, "", "a"⟩]

theorem applyEdits_simultaneous_mixed :
    (∀ e ∈ mixedEdits, e.span.Forward) ∧ applyEdits "aébc" mixedEdits = .ok "é(xyzc)" ∧
    "é(xyzc)".utf8ByteSize + (mixedEdits.map (·.span.length)).sum =
      "aébc".utf8ByteSize + (mixedEdits.map (·.replacement.utf8ByteSize)).sum := by
  have hf : ∀ e ∈ mixedEdits, e.span.Forward := by
    intro e he
    simp only [mixedEdits, List.mem_cons, List.not_mem_nil, or_false] at he
    rcases he with rfl | rfl | rfl | rfl <;> exact Nat.le_of_ble_eq_true rfl
  have hok : applyEdits "aébc" mixedEdits = .ok "é(xyzc)" := by cbv
  exact ⟨hf, hok, ((applyEdits_simultaneous "aébc" hf).2.2.2.2.2 _ hok).2⟩

end TypeLint
