import TypeLint.Proofs.Catalog.Fixers
import TypeLint.Proofs.Fix.Simultaneous

/-!
# Taking parameters out of a list

`removals` works on spans: a parameter with a kept one after it is deleted up to the next parameter,
any other from the end of the one before. What this leaves is told here in texts. A list as `written`
is the texts of its parameters with a separator between each two, and what is left is the list of the
parameters that are kept, each with its own separator except the last.

The parameter that is kept last divides the list (`exists_split`). On its left a separator goes with
the parameter before it, on its right with the one after it, and `cuts` lists these pieces without
looking at positions. `removalSpans` finds the same pieces (`removalSpans_eq_cuts`), and leaving them
out of the text leaves the list of what is kept (`woven_cuts`).

Pieces that follow each other may still count as overlapping, if both are empty and at one place.
Each reaches from the start of a parameter, or further left, to the end of one, so two parameters
would have to be empty and at one place as well (`pairwise_cuts`).
-/

namespace TypeLint.Catalog

/-! ## Lists as written -/

/-- A parameter of a list, and what stands between it and the next one. -/
structure Listed where
  text : String
  separator : String

namespace Listed

/-- What comes after the parameter in a list that goes on with the others. -/
def followedBy (p : Listed) : List Listed → String
  | [] => ""
  | q :: rest => p.separator ++ (q.text ++ q.followedBy rest)

/-- Where the next parameter starts, if this one starts at `offset`. -/
def next (p : Listed) (offset : Nat) : Nat :=
  offset + p.text.utf8ByteSize + p.separator.utf8ByteSize

end Listed

/-- The parameters with a separator between each two of them. -/
def written : List Listed → String
  | [] => ""
  | p :: rest => p.text ++ p.followedBy rest

/-- Where the parameters stand, if the first one starts at `offset`. -/
def places : (offset : Nat) → List Listed → List Span
  | _, [] => []
  | offset, p :: rest =>
    ⟨offset, offset + p.text.utf8ByteSize⟩ :: places (p.next offset) rest

/-- The entries whose flag is not set. -/
def kept {α : Type} (entries : List α) (removed : List Bool) : List α :=
  ((entries.zip removed).filter (!·.2)).map (·.1)

theorem Listed.le_next (p : Listed) (offset : Nat) : offset ≤ p.next offset := by
  unfold next
  omega

/-- The first parameter stands at the offset. -/
theorem places_eq_cons (offset : Nat) {items : List Listed} (h : items ≠ []) :
    ∃ stop rest, places offset items = ⟨offset, stop⟩ :: rest := by
  cases items with
  | nil => exact absurd rfl h
  | cons p rest => exact ⟨_, _, rfl⟩

theorem written_cons {rest : List Listed} (h : rest ≠ []) (p : Listed) :
    written (p :: rest) = p.text ++ p.separator ++ written rest := by
  cases rest with
  | nil => exact absurd rfl h
  | cons q rest => exact (String.append_assoc ..).symm

/-! ## Reading a list off its spans -/

/-- Slices of the text that follow each other are the places of a list in it. -/
theorem exists_written {spans : List Span} :
    ∀ {front old : String} {s : Span}, s.start = front.utf8ByteSize →
      (∀ t ∈ s :: spans, t.Slices (front ++ old)) →
      (s :: spans).Pairwise (fun a b => a.stop ≤ b.start) →
      ∃ items back, old = written items ++ back ∧ places front.utf8ByteSize items = s :: spans := by
  induction spans with
  | nil =>
    intro front old s hstart hslices _
    obtain ⟨text, htext⟩ := hslices s (List.mem_singleton.2 rfl)
    rw [hstart] at htext
    obtain ⟨back, rfl, hstop⟩ := Text.exists_of_slice?_append htext
    refine ⟨[⟨text, ""⟩], back, ?_, ?_⟩
    · rw [written, Listed.followedBy, String.append_empty]
    · rw [places, places, ← hstop, ← hstart]
  | cons t spans ih =>
    intro front old s hstart hslices horder
    obtain ⟨hnext, horder⟩ := List.pairwise_cons.1 horder
    obtain ⟨text, htext⟩ := hslices s List.mem_cons_self
    obtain ⟨_, ht⟩ := hslices t (List.mem_cons_of_mem _ List.mem_cons_self)
    -- between the two spans lies the separator
    obtain ⟨separator, hseparator⟩ := Text.exists_slice? (hnext t List.mem_cons_self)
      (Text.boundaries_of_slice? htext).2 (Text.boundaries_of_slice? ht).1
    rw [hstart] at htext
    obtain ⟨old, rfl, hstop⟩ := Text.exists_of_slice?_append htext
    rw [hstop, ← String.utf8ByteSize_append, ← String.append_assoc] at hseparator
    obtain ⟨old, rfl, hstart'⟩ := Text.exists_of_slice?_append hseparator
    rw [← String.utf8ByteSize_append] at hstart'
    simp only [← String.append_assoc] at hslices
    obtain ⟨items, back, rfl, hplaces⟩ := ih hstart'
      (fun u hu => hslices u (List.mem_cons_of_mem _ hu)) horder
    have hne : items ≠ [] := by
      rintro rfl
      cases hplaces
    refine ⟨⟨text, separator⟩ :: items, back, ?_, ?_⟩
    · rw [written_cons hne]
      simp only [String.append_assoc]
    · simp only [String.utf8ByteSize_append] at hplaces
      rw [places, Listed.next, hplaces, ← hstop, ← hstart]

/-! ## The parameter that is kept last -/

theorem all_of_false_notMem {removed : List Bool} (h : false ∉ removed) :
    ∀ r ∈ removed, r = true := by
  intro r hr
  cases r with
  | true => rfl
  | false => exact absurd hr h

/-- A list of which something is kept, divided at the parameter that is kept last: everything after
it is removed. -/
theorem exists_split :
    ∀ {items : List Listed} {removed : List Bool}, items.length = removed.length →
      false ∈ removed →
      ∃ (before : List (Listed × Bool)) (last : Listed) (after : List Listed),
        items = before.map (·.1) ++ last :: after ∧
        removed = before.map (·.2) ++ false :: after.map fun _ => true
  | [], _ :: _, hlength, _ => by cases hlength
  | p :: items, r :: removed, hlength, hkept => by
    have hlength : items.length = removed.length := Nat.succ.inj hlength
    by_cases hmore : false ∈ removed
    · obtain ⟨before, last, after, rfl, rfl⟩ := exists_split hlength hmore
      exact ⟨(p, r) :: before, last, after, rfl, rfl⟩
    · have hr : r = false := ((List.mem_cons.1 hkept).resolve_right hmore).symm
      refine ⟨[], p, items, rfl, ?_⟩
      rw [hr, List.eq_replicate_of_mem (all_of_false_notMem hmore), List.map_const', hlength]
      rfl

theorem kept_split (before : List (Listed × Bool)) (last : Listed) (after : List Listed) :
    kept (before.map (·.1) ++ last :: after)
        (before.map (·.2) ++ false :: after.map fun _ => true) =
      (before.filter (!·.2)).map (·.1) ++ [last] := by
  unfold kept
  have hafter : (after.zip (after.map fun _ => true)).filter (!·.2) = [] := by
    rw [List.filter_eq_nil_iff]
    intro e he
    obtain ⟨_, hflag⟩ := List.of_mem_zip he
    obtain ⟨_, -, hflag⟩ := List.mem_map.1 hflag
    simp [← hflag]
  rw [List.zip_append (by rw [List.length_map, List.length_map]), List.zip_map', List.map_id',
    List.filter_append, List.zip_cons_cons, List.filter_cons_of_pos rfl, hafter, List.map_append]
  rfl

/-- Nothing is kept where every flag is set. -/
theorem filter_zipIdx_of_all {removed : List Bool} (h : ∀ r ∈ removed, r = true) (k : Nat) :
    (removed.zipIdx k).filter (!·.1) = [] := by
  rw [List.filter_eq_nil_iff]
  intro e he
  rw [h e.1 (List.fst_mem_of_mem_zipIdx he)]
  exact Bool.false_ne_true

/-- The position of the parameter that divides the list. -/
theorem getLast?_kept_split (flags : List Bool) {trailing : List Bool}
    (h : ∀ r ∈ trailing, r = true) :
    ((((flags ++ false :: trailing).zipIdx).filter (!·.1)).map (·.2)).getLast? =
      some flags.length := by
  rw [List.zipIdx_append, List.zipIdx_cons, List.filter_append, Nat.zero_add,
    List.filter_cons_of_pos rfl, filter_zipIdx_of_all h, List.map_append]
  exact List.getLast?_concat

/-! ## The pieces that go -/

/-- After the parameter `p`, which ends at `offset`, every parameter goes with the separator before
it. -/
def cutsAfter : (offset : Nat) → Listed → List Listed → List Span
  | _, _, [] => []
  | offset, p, q :: rest =>
    let stop := offset + p.separator.utf8ByteSize + q.text.utf8ByteSize
    ⟨offset, stop⟩ :: cutsAfter stop q rest

/-- Before the parameter that is kept last, what is removed goes with the separator after it. -/
def cuts (last : Listed) (after : List Listed) : (offset : Nat) → List (Listed × Bool) → List Span
  | offset, [] => cutsAfter (offset + last.text.utf8ByteSize) last after
  | offset, (p, removed) :: before =>
    if removed then ⟨offset, p.next offset⟩ :: cuts last after (p.next offset) before
    else cuts last after (p.next offset) before

/-! ## The deletions are these pieces -/

theorem of_drop_eq_cons {α : Type} {l rest : List α} {k : Nat} {a : α} (h : l.drop k = a :: rest) :
    l[k]? = some a ∧ l.drop (k + 1) = rest := by
  refine ⟨?_, ?_⟩
  · rw [← Nat.add_zero k, ← List.getElem?_drop, h]
    rfl
  · rw [← List.tail_drop, h]
    rfl

section

variable {spans : List Span} {lastKept : Nat}

theorem removalSpan_of_lt {i : Nat} {span next : Span} (hlt : i < lastKept)
    (hnext : spans[i + 1]? = some next) (hle : span.start ≤ next.start) :
    removalSpan spans lastKept i span = .ok ⟨span.start, next.start⟩ := by
  unfold removalSpan
  rw [if_pos hlt]
  simp only [hnext, Span.between, if_pos hle]

theorem removalSpan_of_le {i : Nat} {span previous : Span} (hle : lastKept ≤ i)
    (hprevious : spans[i]? = some previous) (hstop : previous.stop ≤ span.stop) :
    removalSpan spans lastKept (i + 1) span = .ok ⟨previous.stop, span.stop⟩ := by
  unfold removalSpan
  rw [if_neg (by omega)]
  simp only [hprevious, Span.between, if_pos hstop]

/-- After the last parameter that is kept. -/
theorem mapM_removalSpan_after :
    ∀ {after : List Listed} {p : Listed} {start offset k : Nat}, lastKept ≤ k →
      spans[k]? = some ⟨start, offset⟩ →
      spans.drop (k + 1) = places (offset + p.separator.utf8ByteSize) after →
      ((((places (offset + p.separator.utf8ByteSize) after).zip (after.map fun _ => true)).zipIdx
        (k + 1)).filter (·.1.2)).mapM (fun ((span, _), i) => removalSpan spans lastKept i span) =
          .ok (cutsAfter offset p after)
  | [], _, _, _, _, _, _, _ => rfl
  | q :: after, p, start, offset, k, hk, hspan, hrest => by
    obtain ⟨hspan', hrest'⟩ := of_drop_eq_cons hrest
    have ih := mapM_removalSpan_after (by omega) hspan' hrest'
    exact mapM_cons_ok (removalSpan_of_le hk hspan (by simp only; omega)) ih

/-- Before the last parameter that is kept, and from there on. -/
theorem mapM_removalSpan_cuts {last : Listed} {after : List Listed} :
    ∀ {before : List (Listed × Bool)} {offset k : Nat}, k + before.length = lastKept →
      spans.drop k = places offset (before.map (·.1) ++ last :: after) →
      ((((places offset (before.map (·.1) ++ last :: after)).zip
        (before.map (·.2) ++ false :: after.map fun _ => true)).zipIdx k).filter (·.1.2)).mapM
          (fun ((span, _), i) => removalSpan spans lastKept i span) =
        .ok (cuts last after offset before)
  | [], offset, k, hk, hrest => by
    obtain ⟨hspan, hrest⟩ := of_drop_eq_cons hrest
    exact mapM_removalSpan_after (Nat.le_of_eq hk.symm) hspan hrest
  | (p, removed) :: before, offset, k, hk, hrest => by
    obtain ⟨-, hrest⟩ := of_drop_eq_cons hrest
    have hlt : k < lastKept := by
      rw [← hk, List.length_cons]
      omega
    have ih := mapM_removalSpan_cuts (by rw [← hk, List.length_cons]; omega) hrest
    -- the next parameter exists, because the one kept last is still to come
    obtain ⟨stop, more, hplaces⟩ := places_eq_cons (p.next offset)
      (List.append_ne_nil_of_right_ne_nil (before.map (·.1)) (List.cons_ne_nil last after))
    obtain ⟨hnext, -⟩ := of_drop_eq_cons (hrest.trans hplaces)
    cases removed with
    | false => exact ih
    | true => exact mapM_cons_ok (removalSpan_of_lt hlt hnext (p.le_next offset)) ih

end

/-- A list divided at the parameter that is kept last loses the pieces that go. -/
theorem removalSpans_eq_cuts (list : Span) (offset : Nat) (before : List (Listed × Bool))
    (last : Listed) (after : List Listed) :
    removalSpans list (places offset (before.map (·.1) ++ last :: after))
        (before.map (·.2) ++ false :: after.map fun _ => true) =
      .ok (cuts last after offset before) := by
  have htrailing : ∀ r ∈ after.map fun _ => true, r = true := by
    intro r hr
    obtain ⟨_, -, rfl⟩ := List.mem_map.1 hr
    rfl
  unfold removalSpans
  rw [getLast?_kept_split _ htrailing]
  exact mapM_removalSpan_cuts (by rw [Nat.zero_add, List.length_map]) rfl

/-! ## What is left without these pieces -/

theorem delete_eq {source text : String} {s : Span}
    (h : Text.slice? source s.start s.stop = some text) : Edit.delete source s = ⟨s, "", text⟩ := by
  rw [Edit.delete, Edit.replace, h, Option.getD_some]

/-- Deleting the piece that comes next. -/
theorem woven_delete {source front text old new : String} {edits : List Edit}
    (hsource : source = front ++ (text ++ old))
    (h : Edit.Woven (front ++ text).utf8ByteSize edits old new) :
    Edit.Woven front.utf8ByteSize
      (Edit.delete source ⟨front.utf8ByteSize, (front ++ text).utf8ByteSize⟩ :: edits)
      (text ++ old) new := by
  have hslice : Text.slice? source front.utf8ByteSize (front ++ text).utf8ByteSize = some text := by
    rw [hsource, ← String.append_assoc, String.utf8ByteSize_append]
    exact Text.slice?_append front text old
  rw [delete_eq hslice]
  have hwoven := Edit.Woven.edit (e := ⟨⟨front.utf8ByteSize, (front ++ text).utf8ByteSize⟩, "", text⟩)
    "" (Nat.add_zero _).symm String.utf8ByteSize_append h
  simpa only [String.empty_append] using hwoven

/-- After the last parameter that is kept nothing is left of the list. -/
theorem woven_cutsAfter {source back : String} :
    ∀ {after : List Listed} {p : Listed} {front : String},
      source = front ++ (p.followedBy after ++ back) →
      Edit.Woven front.utf8ByteSize ((cutsAfter front.utf8ByteSize p after).map (Edit.delete source))
        (p.followedBy after ++ back) back
  | [], p, front, _ => by
    rw [Listed.followedBy, String.empty_append]
    exact .rest _ _
  | q :: after, p, front, hsource => by
    have hrest : p.followedBy (q :: after) ++ back =
        (p.separator ++ q.text) ++ (q.followedBy after ++ back) := by
      rw [Listed.followedBy]
      simp only [String.append_assoc]
    rw [hrest] at hsource ⊢
    have ih := woven_cutsAfter (hsource.trans (String.append_assoc ..).symm)
    have hwoven := woven_delete hsource ih
    simp only [String.utf8ByteSize_append, ← Nat.add_assoc] at hwoven
    exact hwoven

/-- What is left of the list is the list of what is kept. -/
theorem woven_cuts {source back : String} {last : Listed} {after : List Listed} :
    ∀ {before : List (Listed × Bool)} {front : String},
      source = front ++ (written (before.map (·.1) ++ last :: after) ++ back) →
      Edit.Woven front.utf8ByteSize
        ((cuts last after front.utf8ByteSize before).map (Edit.delete source))
        (written (before.map (·.1) ++ last :: after) ++ back)
        (written ((before.filter (!·.2)).map (·.1) ++ [last]) ++ back)
  | [], front, hsource => by
    have hrest : written (last :: after) ++ back = last.text ++ (last.followedBy after ++ back) :=
      String.append_assoc ..
    have hlast : written [last] ++ back = last.text ++ back := by
      rw [written, Listed.followedBy, String.append_empty]
    rw [List.map_nil, List.nil_append, hrest] at hsource ⊢
    rw [List.filter_nil, List.map_nil, List.nil_append, hlast]
    have hwoven := woven_cutsAfter (hsource.trans (String.append_assoc ..).symm)
    rw [String.utf8ByteSize_append] at hwoven
    exact hwoven.keep last.text
  | (p, removed) :: before, front, hsource => by
    have hcons : ∀ rest, rest ≠ [] → written (p :: rest) ++ back =
        (p.text ++ p.separator) ++ (written rest ++ back) := by
      intro rest hne
      rw [written_cons hne, String.append_assoc]
    have hnext : (front ++ (p.text ++ p.separator)).utf8ByteSize = p.next front.utf8ByteSize := by
      simp only [String.utf8ByteSize_append, Listed.next, Nat.add_assoc]
    rw [List.map_cons, List.cons_append, hcons _ (by simp)] at hsource ⊢
    have ih := woven_cuts (hsource.trans (String.append_assoc ..).symm)
    cases removed with
    | true =>
      have hwoven := woven_delete hsource ih
      rw [hnext] at hwoven
      exact hwoven
    | false =>
      -- the one kept last follows, so `p` keeps its separator
      rw [List.filter_cons_of_pos rfl, List.map_cons, List.cons_append, hcons _ (by simp)]
      rw [String.utf8ByteSize_append] at ih
      have hwoven := ih.keep (p.text ++ p.separator)
      rw [← String.utf8ByteSize_append, hnext] at hwoven
      exact hwoven

/-! ## No two of these pieces overlap -/

theorem exists_place_of_mem_cutsAfter :
    ∀ {after : List Listed} {p : Listed} {offset : Nat} {c : Span}, c ∈ cutsAfter offset p after →
      ∃ s ∈ places (offset + p.separator.utf8ByteSize) after, s.stop ≤ c.stop
  | [], _, _, _, hc => (List.not_mem_nil hc).elim
  | q :: after, p, offset, c, hc => by
    rw [places]
    rcases List.mem_cons.1 hc with rfl | hc
    · exact ⟨_, List.mem_cons_self, Nat.le_refl _⟩
    · obtain ⟨s, hs, hstop⟩ := exists_place_of_mem_cutsAfter hc
      exact ⟨s, List.mem_cons_of_mem _ hs, hstop⟩

/-- Each piece reaches the end of a parameter that it takes. -/
theorem exists_place_of_mem_cuts {last : Listed} {after : List Listed} :
    ∀ {before : List (Listed × Bool)} {offset : Nat} {c : Span}, c ∈ cuts last after offset before →
      ∃ s ∈ places offset (before.map (·.1) ++ last :: after), s.stop ≤ c.stop
  | [], offset, c, hc => by
    obtain ⟨s, hs, hstop⟩ := exists_place_of_mem_cutsAfter hc
    exact ⟨s, List.mem_cons_of_mem _ hs, hstop⟩
  | (p, removed) :: before, offset, c, hc => by
    have hrest : c ∈ cuts last after (p.next offset) before →
        ∃ s ∈ places offset ((p :: before.map (·.1)) ++ last :: after), s.stop ≤ c.stop := by
      intro hc
      obtain ⟨s, hs, hstop⟩ := exists_place_of_mem_cuts hc
      exact ⟨s, List.mem_cons_of_mem _ hs, hstop⟩
    cases removed with
    | false => exact hrest hc
    | true =>
      rcases List.mem_cons.1 hc with rfl | hc
      · exact ⟨_, List.mem_cons_self, Nat.le_add_right ..⟩
      · exact hrest hc

theorem pairwise_cutsAfter :
    ∀ {after : List Listed} {p : Listed} {offset : Nat},
      (places (offset + p.separator.utf8ByteSize) after).Pairwise (fun a b => a.start < b.stop) →
      (cutsAfter offset p after).Pairwise fun a b => a.start < b.stop
  | [], _, _, _ => List.Pairwise.nil
  | q :: after, p, offset, h => by
    obtain ⟨hfirst, hrest⟩ := List.pairwise_cons.1 h
    refine List.pairwise_cons.2 ⟨fun c hc => ?_, pairwise_cutsAfter hrest⟩
    obtain ⟨s, hs, hstop⟩ := exists_place_of_mem_cutsAfter hc
    have hlt := hfirst s hs
    simp only at hlt ⊢
    omega

/-- If no two parameters are the same empty place, no two pieces are. -/
theorem pairwise_cuts {last : Listed} {after : List Listed} :
    ∀ {before : List (Listed × Bool)} {offset : Nat},
      (places offset (before.map (·.1) ++ last :: after)).Pairwise (fun a b => a.start < b.stop) →
      (cuts last after offset before).Pairwise fun a b => a.start < b.stop
  | [], _, h => pairwise_cutsAfter (List.pairwise_cons.1 h).2
  | (p, removed) :: before, offset, h => by
    obtain ⟨hfirst, hrest⟩ := List.pairwise_cons.1 h
    have ih := pairwise_cuts hrest
    cases removed with
    | false => exact ih
    | true =>
      refine List.pairwise_cons.2 ⟨fun c hc => ?_, ih⟩
      obtain ⟨s, hs, hstop⟩ := exists_place_of_mem_cuts hc
      exact Nat.lt_of_lt_of_le (hfirst s hs) hstop

/-! ## Deleting -/

/-- The spans are pieces of the text, from left to right, and no two of them overlap. -/
structure Laid (source : String) (spans : List Span) : Prop where
  slices : ∀ s ∈ spans, s.Slices source
  sorted : spans.Pairwise fun a b => a.before b = true
  apart : spans.Pairwise fun a b => a.overlaps b = false

section

variable {source : String} {list : Span} {spans : List Span} {removed : List Bool}

theorem Laid.pairwise (h : Laid source spans) :
    spans.Pairwise fun a b => a.stop ≤ b.start ∧ a.start < b.stop := by
  have hforward : ∀ s ∈ spans, s.Forward := fun s hs => (Edit.fits_delete (h.slices s hs)).forward
  refine (h.sorted.and h.apart).imp_of_mem fun {a b} ha hb hab => ?_
  exact (Span.before_and_apart_iff (hforward a ha) (hforward b hb)).1 hab

/-- Spans that are laid out in a text are the places of a list in it. -/
theorem Laid.exists_items (h : Laid source spans) (hne : spans ≠ []) :
    ∃ front items back, source = front ++ (written items ++ back) ∧
      places front.utf8ByteSize items = spans := by
  cases spans with
  | nil => exact absurd rfl hne
  | cons s spans =>
    obtain ⟨text, htext⟩ := h.slices s List.mem_cons_self
    obtain ⟨front, old, hsource, hstart, -⟩ := Text.slice?_eq_some_iff.1 htext
    rw [String.append_assoc] at hsource
    obtain ⟨items, back, hitems, hplaces⟩ := exists_written hstart (hsource ▸ h.slices)
      (h.pairwise.imp fun hab => hab.1)
    exact ⟨front, items, back, by rw [hsource, hitems], hplaces⟩

theorem length_places : ∀ (offset : Nat) (items : List Listed),
    (places offset items).length = items.length
  | _, [] => rfl
  | offset, p :: items => congrArg Nat.succ (length_places (p.next offset) items)

/-- With nothing kept the list goes as a whole. -/
theorem removals_of_all (h : ∀ r ∈ removed, r = true) :
    removals source list spans removed = .ok [Edit.delete source list] := by
  unfold removals removalSpans
  rw [filter_zipIdx_of_all h]
  rfl

/-- A deletion of a piece of the text leaves what is around it. -/
theorem applyEdits_delete (h : list.Slices source) :
    ∃ front text back, source = front ++ text ++ back ∧ list.start = front.utf8ByteSize ∧
      list.stop = front.utf8ByteSize + text.utf8ByteSize ∧
      applyEdits source [Edit.delete source list] = .ok (front ++ back) := by
  obtain ⟨text, htext⟩ := h
  obtain ⟨front, back, hsource, hstart, hstop⟩ := Text.slice?_eq_some_iff.1 htext
  refine ⟨front, text, back, hsource, hstart, hstop, ?_⟩
  have happly := applyEdits_singleton front text back ""
  rw [← hsource, ← hstop, ← hstart, String.append_empty] at happly
  rw [delete_eq htext]
  exact happly

/-- The deletions of the pieces that go can be made together, and leave the list of what is kept. -/
theorem applyEdits_cuts {front back : String} {before : List (Listed × Bool)} {last : Listed}
    {after : List Listed}
    (hsource : source = front ++ (written (before.map (·.1) ++ last :: after) ++ back))
    (hplaces : (places front.utf8ByteSize (before.map (·.1) ++ last :: after)).Pairwise
      fun a b => a.start < b.stop) :
    Edit.Apart ((cuts last after front.utf8ByteSize before).map (Edit.delete source)) ∧
    applyEdits source ((cuts last after front.utf8ByteSize before).map (Edit.delete source)) =
      .ok (front ++ (written ((before.filter (!·.2)).map (·.1) ++ [last]) ++ back)) := by
  have hwoven := woven_cuts hsource
  rw [← Nat.zero_add front.utf8ByteSize] at hwoven
  have hwhole := hwoven.keep front
  rw [Nat.zero_add, ← hsource] at hwhole
  exact applyEdits_of_woven (List.pairwise_map.2 (pairwise_cuts hplaces)) hwhole

end

/-- **Taking parameters out of a list leaves a list.** Let the parameters stand in the text from left
to right without overlapping, and let some of them be removed. The deletions can always be told, and
no two of them overlap. If nothing is kept, the list goes as a whole. Otherwise what is left is the
list of the parameters that are kept, in order and with one separator of the old list between each
two of them, and what stands before the first and after the last parameter stays. -/
theorem removals_leave_list {source : String} {list : Span} {spans : List Span}
    {removed : List Bool} (hlaid : Laid source spans) (hlist : list.Slices source)
    (hlength : spans.length = removed.length) :
    ∃ edits, removals source list spans removed = .ok edits ∧ Edit.Apart edits ∧
      ((∀ r ∈ removed, r = true) → edits = [Edit.delete source list] ∧
        ∃ front text back, source = front ++ text ++ back ∧ list.start = front.utf8ByteSize ∧
          list.stop = front.utf8ByteSize + text.utf8ByteSize ∧
          applyEdits source edits = .ok (front ++ back)) ∧
      (false ∈ removed → ∃ front items back, source = front ++ (written items ++ back) ∧
        places front.utf8ByteSize items = spans ∧
        applyEdits source edits = .ok (front ++ (written (kept items removed) ++ back))) := by
  by_cases hkept : false ∈ removed
  · have hne : spans ≠ [] := by
      rintro rfl
      rw [List.length_eq_zero_iff.1 hlength.symm] at hkept
      cases hkept
    obtain ⟨front, items, back, hsource, rfl⟩ := hlaid.exists_items hne
    rw [length_places] at hlength
    obtain ⟨before, last, after, rfl, rfl⟩ := exists_split hlength hkept
    obtain ⟨hapart, happly⟩ := applyEdits_cuts hsource (hlaid.pairwise.imp fun hab => hab.2)
    refine ⟨_, ?_, hapart, fun hall => ?_, fun _ => ⟨front, _, back, hsource, rfl, ?_⟩⟩
    · rw [removals, removalSpans_eq_cuts]
      rfl
    · cases hall false hkept
    · rw [kept_split]
      exact happly
  · exact ⟨_, removals_of_all (all_of_false_notMem hkept), List.pairwise_singleton _ _,
      fun _ => ⟨rfl, applyEdits_delete hlist⟩, fun h => absurd h hkept⟩

/-- A text with a list of five parameters. -/
def fiveParameters : String := "f<A, K, é, L, B>()"

/-- Where the five stand. -/
def fiveSpans : List Span := [⟨2, 3⟩, ⟨5, 6⟩, ⟨8, 10⟩, ⟨12, 13⟩, ⟨15, 16⟩]

theorem laid_fiveSpans : Laid fiveParameters fiveSpans where
  slices := by
    intro s hs
    simp only [fiveSpans, List.mem_cons, List.not_mem_nil, or_false] at hs
    rcases hs with rfl | rfl | rfl | rfl | rfl
    · exact ⟨"A", by cbv⟩
    · exact ⟨"K", by cbv⟩
    · exact ⟨"é", by cbv⟩
    · exact ⟨"L", by cbv⟩
    · exact ⟨"B", by cbv⟩
  sorted := by decide
  apart := by decide

/-- Every other one goes, the first and the last among them. -/
theorem removals_leave_list_alternating :
    Laid fiveParameters fiveSpans ∧ Span.Slices fiveParameters ⟨1, 17⟩ ∧
    ∃ edits, removals fiveParameters ⟨1, 17⟩ fiveSpans [true, false, true, false, true] = .ok edits ∧
      Edit.Apart edits ∧ applyEdits fiveParameters edits = .ok "f<K, L>()" ∧
      ∃ front items back, fiveParameters = front ++ (written items ++ back) ∧
        places front.utf8ByteSize items = fiveSpans ∧
        front ++ (written (kept items [true, false, true, false, true]) ++ back) = "f<K, L>()" := by
  have hlist : Span.Slices fiveParameters ⟨1, 17⟩ := ⟨"<A, K, é, L, B>", by cbv⟩
  have hdeletions : removals fiveParameters ⟨1, 17⟩ fiveSpans [true, false, true, false, true] =
      .ok [⟨⟨2, 5⟩, "", "A, "⟩, ⟨⟨8, 12⟩, "", "é, "⟩, ⟨⟨13, 16⟩, "", ", B"⟩] := by cbv
  have hlength : fiveSpans.length = [true, false, true, false, true].length := rfl
  obtain ⟨edits, hedits, hapart, -, hkept⟩ := removals_leave_list laid_fiveSpans hlist hlength
  obtain ⟨front, items, back, hsource, hplaces, happly⟩ := hkept (by decide)
  cases hdeletions.symm.trans hedits
  have hleft : applyEdits fiveParameters
      [⟨⟨2, 5⟩, "", "A, "⟩, ⟨⟨8, 12⟩, "", "é, "⟩, ⟨⟨13, 16⟩, "", ", B"⟩] = .ok "f<K, L>()" := by cbv
  exact ⟨laid_fiveSpans, hlist, _, hedits, hapart, hleft, front, items, back, hsource, hplaces,
    Except.ok.inj (happly.symm.trans hleft)⟩

end TypeLint.Catalog
