import TypeLint.Proofs.Fix.Edits
import TypeLint.Proofs.Tree.Building
import TypeLint.Rule.Basic

/-!
# Fixes that apply

A fixer is sound when the fix it proposes can be made in the text it was made for. Whether the edits
overlap is checked where a fix is put together, so a fixer has one thing to see to: that each edit is
over a piece of the text. `FixOutcome.sound_propose` is that argument, once for all fixers.

The pieces come from the tree. The span of a node is a slice of the text, and so is everything between
two places where nodes start or stop. A fixer by templates has nothing else to work with, so it is
sound whatever its templates say: `Fixer.run_template_sound`.
-/

namespace TypeLint

/-! ## Slices of the text -/

/-- There is a piece of the text under the span. -/
def Span.Slices (source : String) (s : Span) : Prop :=
  ∃ text, Text.slice? source s.start s.stop = some text

theorem Span.slices_of_boundaries {source : String} {s : Span} (hle : s.start ≤ s.stop)
    (hstart : Text.IsBoundary source s.start) (hstop : Text.IsBoundary source s.stop) :
    s.Slices source :=
  ⟨_, dif_pos ⟨hle, hstart, hstop⟩⟩

/-- Between two boundaries there is a piece of the text, whichever comes first. -/
theorem Span.slices_between {source : String} {a b : Nat} (ha : Text.IsBoundary source a)
    (hb : Text.IsBoundary source b) : (Span.between a b).Slices source := by
  unfold Span.between
  split
  next hle => exact slices_of_boundaries hle ha hb
  next hlt => exact slices_of_boundaries (by simp only; omega) hb ha

namespace Node

variable {t : SyntaxTree}

/-- The text of a node is the piece under its span. -/
theorem slices_span (n : Node t) : n.span.Slices t.source :=
  Span.slices_of_boundaries n.span_start_le_stop n.span_fits.2.1 n.span_fits.2.2

theorem slice?_span (n : Node t) :
    Text.slice? t.source n.span.start n.span.stop = some n.text := by
  obtain ⟨piece, h⟩ := n.slices_span
  rw [text, h, Option.getD_some]

end Node

/-! ## Edits over slices -/

namespace Edit

variable {source : String}

theorem fits_replace {s : Span} (h : s.Slices source) (replacement : String) :
    (Edit.replace source s replacement).Fits source := by
  obtain ⟨text, h⟩ := h
  show Text.slice? source s.start s.stop = some ((Text.slice? source s.start s.stop).getD "")
  rw [h, Option.getD_some]

theorem fits_delete {s : Span} (h : s.Slices source) : (Edit.delete source s).Fits source :=
  fits_replace h ""

/-- Nothing stands where something is inserted. -/
theorem fits_insert {offset : Nat} (h : Text.IsBoundary source offset) (text : String) :
    (Edit.insert offset text).Fits source := by
  obtain ⟨p, q, hsource, hoffset⟩ := Text.isBoundary_iff.1 h
  refine Text.slice?_eq_some_iff.2 ⟨p, q, ?_, hoffset, ?_⟩
  · rw [hsource]
    simp [Edit.insert]
  · simpa [Edit.insert, Span.point] using hoffset

end Edit

/-! ## Outcomes -/

/-- Why a fix is refused that a fixer proposed and that cannot be made. -/
def Proposal.staleReason : String := "generated fix does not apply"

/-- The outcome keeps its word: a proposed fix can be made in the text, and what is left to do by hand
has another reason than a fix that cannot be made. -/
def FixOutcome.Sound (source : String) : FixOutcome → Prop
  | .proposed fix => ∃ t, fix.apply source = .ok t
  | .manual reason => reason ≠ Proposal.staleReason

/-- A text that starts otherwise is another text. -/
theorem Text.append_ne_of_head? {lead other : String} {c : Char} (hlead : lead.toList.head? = some c)
    (hother : other.toList.head? ≠ some c) (rest : String) : lead ++ rest ≠ other := by
  intro heq
  refine hother ?_
  rw [← heq, String.toList_append, List.head?_append, hlead]
  rfl

/-- A fix that was put together from edits over the text can be made. -/
theorem Fix.exists_apply_of_make {source description : String} {confidence : Confidence}
    {edits : List Edit} {fix : Fix} (hfits : ∀ e ∈ edits, e.Fits source)
    (h : Fix.make description confidence edits = .ok fix) : ∃ t, fix.apply source = .ok t := by
  unfold Fix.make at h
  simp only at h
  split at h
  next => cases h
  next hnone =>
    cases h
    have hsorted : ∀ e ∈ Edit.sorted edits, e.Fits source := fun e he => hfits e (Edit.mem_sorted.1 he)
    refine applyEdits_ok_iff.2 ⟨?_, hsorted⟩
    exact Edit.apart_of_firstOverlap?_eq_none (Edit.pairwise_sorted edits)
      (fun e he => (hsorted e he).forward) hnone

namespace FixOutcome

/-- Edits over the text make a fix that applies, or overlap. -/
theorem sound_ofResult_make {source description : String} {confidence : Confidence}
    {edits : List Edit} (hfits : ∀ e ∈ edits, e.Fits source) :
    (ofResult (Fix.make description confidence edits)).Sound source := by
  cases hmake : Fix.make description confidence edits with
  | ok fix => exact Fix.exists_apply_of_make hfits hmake
  | error e =>
    -- the only way to fail is an overlap, and that is not what the reason says
    obtain ⟨first, second, rfl⟩ : ∃ first second, e = .overlap first second := by
      unfold Fix.make at hmake
      simp only at hmake
      split at hmake
      next first second _ =>
        cases hmake
        exact ⟨first, second, rfl⟩
      next => cases hmake
    show "overlapping edits at " ++ first.text ++ " and " ++ second.text ≠ Proposal.staleReason
    rw [String.append_assoc, String.append_assoc]
    exact Text.append_ne_of_head? (by rfl) (by decide) _

theorem sound_propose {source description : String} {edits : List Edit}
    (hfits : ∀ e ∈ edits, e.Fits source) : (propose description edits).Sound source :=
  sound_ofResult_make hfits

/-- The one edit of most fixers: what a node spells is replaced. -/
theorem sound_propose_replace {t : SyntaxTree} (n : Node t) (description text : String) :
    (propose description [.replace t.source n.span text]).Sound t.source := by
  refine sound_propose fun e he => ?_
  rw [List.mem_singleton.1 he]
  exact Edit.fits_replace n.slices_span text

end FixOutcome

/-! ## Templates -/

/-- A target is a node. -/
theorem Match.exists_node_of_target? {t : SyntaxTree} {m : Match t} {target : String} {span : Span}
    (h : m.target? target = some span) : ∃ n : Node t, n.span = span := by
  unfold target? at h
  split at h
  next =>
    cases h
    exact ⟨m.node, rfl⟩
  next =>
    obtain ⟨n, -, hn⟩ := Option.map_eq_some_iff.1 h
    exact ⟨n, hn⟩

/-- The edit a template makes at a node is over the text. -/
theorem EditTemplate.fits_editAt {t : SyntaxTree} (template : EditTemplate) (captures : Captures t)
    (n : Node t) : (template.editAt captures n.span).Fits t.source := by
  cases template with
  | replace target text => exact Edit.fits_replace n.slices_span _
  | insertBefore target text => exact Edit.fits_insert n.span_fits.2.1 _
  | insertAfter target text => exact Edit.fits_insert n.span_fits.2.2 _
  | delete target => exact Edit.fits_delete n.slices_span

theorem Match.fits_of_mem_edits {t : SyntaxTree} {m : Match t} :
    ∀ {templates : List EditTemplate} {edits : List Edit}, m.edits templates = .ok edits →
      ∀ e ∈ edits, e.Fits t.source
  | [], edits, h, e, he => by
    cases h
    cases he
  | template :: rest, edits, h, e, he => by
    rw [Match.edits] at h
    split at h
    next => cases h
    next span hspan =>
      cases hrest : m.edits rest with
      | error target =>
        rw [hrest] at h
        cases h
      | ok after =>
        rw [hrest] at h
        cases h
        rcases List.mem_cons.1 he with rfl | he
        · obtain ⟨n, rfl⟩ := exists_node_of_target? hspan
          exact template.fits_editAt m.captures n
        · exact fits_of_mem_edits hrest e he

/-- **A fixer by templates is sound**, whatever the templates say. -/
theorem Fixer.run_template_sound (description : String) (templates : List EditTemplate)
    (confidence : Confidence) (ctx : FileContext) (m : Match ctx.tree) :
    ∃ outcome, (Fixer.template description templates confidence).run ctx m = .ok outcome ∧
      outcome.Sound ctx.source := by
  unfold Fixer.run
  simp only
  split
  next target _ =>
    refine ⟨_, rfl, ?_⟩
    show "capture `" ++ target ++ "` is not bound" ≠ Proposal.staleReason
    rw [String.append_assoc]
    exact Text.append_ne_of_head? (by rfl) (by decide) _
  next edits hedits =>
    exact ⟨_, rfl, FixOutcome.sound_ofResult_make (Match.fits_of_mem_edits hedits)⟩

end TypeLint
