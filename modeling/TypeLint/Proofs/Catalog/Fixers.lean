import TypeLint.Catalog.Basic
import TypeLint.Proofs.Rule.SoundFixes

/-!
# The built-in fixers are sound

None of the built-in rules breaks down, on any tree, and every fix that one of them proposes can be
made in the text of its file: `Catalog.rule_safe`. The trees need not be those of any grammar. What a
tree guarantees by itself is enough: the span of a node is a slice of the text.

Most fixers replace what one node spells. Three do more. The directive in a comment is found by its
offset in characters and replaced by its offset in bytes (`exists_of_directiveOffset?`). The indent of
an enum is read off the text before it (`exists_indentAt?`). Type parameters are taken out of their
list together with a separator, which reaches up to the parameter before or after (`removalSpans_ok`):
the parameters there exist because the last one that is kept is not itself removed.
-/

namespace TypeLint

/-- The fixer answers for every hit, and keeps its word. -/
def Fixer.Sound (fixer : Fixer) : Prop :=
  ∀ (ctx : FileContext) (m : Match ctx.tree),
    ∃ outcome, fixer.run ctx m = .ok outcome ∧ outcome.Sound ctx.source

/-- No function of the rule breaks down, and its fixer is sound. -/
structure Rule.Safe (r : Rule) : Prop where
  evaluates : ∀ (ctx : FileContext) (n : Node ctx.tree), ∃ captures, r.evaluate ctx n = .ok captures
  confirms : ∀ confirm, r.confirm = some confirm →
    ∀ (ctx : FileContext) (m : Match ctx.tree), ∃ verdict, confirm ctx m = .ok verdict
  fixes : ∀ fixer, r.fixer = some fixer → fixer.Sound

theorem Fixer.sound_template (description : String) (templates : List EditTemplate)
    (confidence : Confidence) : (Fixer.template description templates confidence).Sound :=
  fun ctx m => Fixer.run_template_sound description templates confidence ctx m

/-- A fixer that always answers is sound when its answers are. -/
theorem Fixer.sound_custom {f : (ctx : FileContext) → Match ctx.tree → FixOutcome}
    (h : ∀ ctx m, (f ctx m).Sound ctx.source) : (Fixer.custom fun ctx m => .ok (f ctx m)).Sound :=
  fun ctx m => ⟨f ctx m, rfl, h ctx m⟩

theorem FixOutcome.sound_manual {source reason : String} (h : reason ≠ Proposal.staleReason) :
    (FixOutcome.manual reason).Sound source :=
  h

theorem mapM_cons_ok {α β ε : Type} {f : α → Except ε β} {a : α} {l : List α} {b : β} {bs : List β}
    (ha : f a = .ok b) (hl : l.mapM f = .ok bs) : (a :: l).mapM f = .ok (b :: bs) := by
  rw [List.mapM_cons, ha, hl]
  rfl

/-- If every step answers, so does the whole, and what holds of the steps' answers holds of all. -/
theorem mapM_ok {α β ε : Type} {f : α → Except ε β} {P : β → Prop} :
    ∀ {l : List α}, (∀ a ∈ l, ∃ b, f a = .ok b ∧ P b) →
      ∃ bs, l.mapM f = .ok bs ∧ ∀ b ∈ bs, P b
  | [], _ => ⟨[], rfl, fun b hb => by cases hb⟩
  | a :: l, h => by
    obtain ⟨b, hb, hP⟩ := h a List.mem_cons_self
    obtain ⟨bs, hbs, hall⟩ := mapM_ok fun a' ha' => h a' (List.mem_cons_of_mem _ ha')
    exact ⟨b :: bs, mapM_cons_ok hb hbs, List.forall_mem_cons.2 ⟨hP, hall⟩⟩

namespace Catalog

open Syntax

/-! ## Fixers that replace one node -/

theorem sound_fixCasualAssertion (ctx : FileContext) (m : Match ctx.tree) :
    (fixCasualAssertion ctx m).Sound ctx.source := by
  unfold fixCasualAssertion
  split
  next operand type _ _ =>
    simp only
    split
    next => exact FixOutcome.sound_manual (by decide)
    next =>
      split
      next =>
        split
        next => exact FixOutcome.sound_manual (by decide)
        next keyword _ => exact FixOutcome.sound_propose_replace keyword _ _
      next => exact FixOutcome.sound_propose_replace m.node _ _
  next => exact FixOutcome.sound_manual (by decide)

theorem sound_fixFunctionType (ctx : FileContext) (m : Match ctx.tree) :
    (fixFunctionType ctx m).Sound ctx.source :=
  FixOutcome.sound_propose_replace m.node _ _

theorem sound_fixWrapper (ctx : FileContext) (m : Match ctx.tree) :
    (fixWrapper ctx m).Sound ctx.source := by
  unfold fixWrapper
  split
  next => exact FixOutcome.sound_manual (by decide)
  next => exact FixOutcome.sound_propose_replace m.node _ _

theorem sound_fixEmptyInterface (ctx : FileContext) (m : Match ctx.tree) :
    (fixEmptyInterface ctx m).Sound ctx.source := by
  unfold fixEmptyInterface
  split
  next name body _ _ =>
    simp only
    split
    next => exact FixOutcome.sound_manual (by decide)
    next =>
      split
      next => exact FixOutcome.sound_manual (by decide)
      next => exact FixOutcome.sound_propose_replace m.node _ _
  next => exact FixOutcome.sound_manual (by decide)

theorem sound_fixMethodShorthand (ctx : FileContext) (m : Match ctx.tree) :
    (fixMethodShorthand ctx m).Sound ctx.source := by
  unfold fixMethodShorthand
  split
  next => exact FixOutcome.sound_manual (by decide)
  next name _ =>
    split
    next => exact FixOutcome.sound_manual (by decide)
    next =>
      split
      next => exact FixOutcome.sound_manual (by decide)
      next =>
        split
        next => exact FixOutcome.sound_manual (by decide)
        next => exact FixOutcome.sound_manual (by decide)
        next result parameters _ _ => exact FixOutcome.sound_propose_replace m.node _ _

/-! ## The directive in a comment -/

theorem eq_append_of_after? :
    ∀ {lead cs rest : List Char}, Text.after? lead cs = some rest → cs = lead ++ rest
  | [], cs, rest, h => by
    cases h
    rfl
  | _ :: _, [], _, h => by cases h
  | l :: lead, c :: cs, rest, h => by
    rw [Text.after?] at h
    split at h
    next hlc => rw [hlc, eq_append_of_after? h, List.cons_append]
    next => cases h

/-- What may stand in a comment before the directive: the opening of the comment, more of its marks,
and white space. -/
def Leads (front : List Char) : Prop :=
  ∃ opening marks blanks, front = opening ++ (marks ++ blanks) ∧
    (opening = "//".toList ∨ opening = "/*".toList) ∧
    (∀ c ∈ marks, (c = '*' || c = '/') = true) ∧ ∀ c ∈ blanks, Text.isBlank c = true

/-- The offset of the directive is where it stands: as many bytes as precede it in the comment. -/
theorem exists_of_directiveOffset? {comment : String} {offset : Nat}
    (h : directiveOffset? comment = some offset) :
    ∃ front back, Leads front.toList ∧ comment = front ++ ignoreDirective ++ back ∧
      offset = front.utf8ByteSize := by
  unfold directiveOffset? at h
  obtain ⟨body, hbody, h⟩ := Option.bind_eq_some_iff.1 h
  obtain ⟨rest, hrest, h⟩ := Option.bind_eq_some_iff.1 h
  obtain ⟨opening, hopening, hmarked⟩ : ∃ opening, (opening = "//".toList ∨ opening = "/*".toList) ∧
      comment.toList = opening ++ body := by
    rcases Option.or_eq_some_iff.1 hbody with hline | ⟨-, hblock⟩
    · exact ⟨_, Or.inl rfl, eq_append_of_after? hline⟩
    · exact ⟨_, Or.inr rfl, eq_append_of_after? hblock⟩
  -- what is skipped behind the opening, and what is left
  let isMark : Char → Bool := fun c => c = '*' || c = '/'
  let marks := body.takeWhile isMark
  let blanks := (body.dropWhile isMark).takeWhile Text.isBlank
  let trimmed := Text.trimFront (Text.dropFront isMark body)
  have hskipped : body = marks ++ (blanks ++ trimmed) := by
    have hblanks : blanks ++ trimmed = body.dropWhile isMark := List.takeWhile_append_dropWhile
    rw [hblanks, List.takeWhile_append_dropWhile]
  have hleads : Leads (opening ++ (marks ++ blanks)) :=
    ⟨opening, marks, blanks, rfl, hopening, List.all_eq_true.1 List.all_takeWhile,
      List.all_eq_true.1 List.all_takeWhile⟩
  have htrimmed : trimmed = ignoreDirective.toList ++ rest := eq_append_of_after? hrest
  split at h
  next => cases h
  next =>
    have hcomment : comment = String.ofList (opening ++ (marks ++ blanks)) ++ String.ofList trimmed := by
      rw [← String.ofList_append, List.append_assoc, List.append_assoc, ← hskipped, ← hmarked,
        String.ofList_toList]
    refine ⟨String.ofList (opening ++ (marks ++ blanks)), String.ofList rest, ?_, ?_, ?_⟩
    · rw [String.toList_ofList]
      exact hleads
    · have hdirective : String.ofList (ignoreDirective.toList ++ rest) =
          ignoreDirective ++ String.ofList rest := by
        rw [String.ofList_append, String.ofList_toList]
      rw [String.append_assoc, ← hdirective, ← htrimmed]
      exact hcomment
    · -- the size before the directive is the whole size less that of what starts with it
      have hsize := congrArg String.utf8ByteSize hcomment
      rw [String.utf8ByteSize_append] at hsize
      have hoffset : comment.utf8ByteSize - (String.ofList trimmed).utf8ByteSize = offset :=
        Option.some.inj h
      omega

/-- A piece of what a node spells stands in the file as far behind the start of the node. -/
theorem slice?_within {t : SyntaxTree} {n : Node t} {front piece back : String}
    (h : n.text = front ++ piece ++ back) :
    Text.slice? t.source (n.span.start + front.utf8ByteSize)
      (n.span.start + front.utf8ByteSize + piece.utf8ByteSize) = some piece := by
  obtain ⟨p, q, hsource, hstart, -⟩ := Text.slice?_eq_some_iff.1 n.slice?_span
  refine Text.slice?_eq_some_iff.2 ⟨p ++ front, back ++ q, ?_, ?_, ?_⟩
  · rw [hsource, h]
    simp only [String.append_assoc]
  · rw [String.utf8ByteSize_append, hstart]
  · rw [String.utf8ByteSize_append, hstart]

theorem sound_fixIgnore (ctx : FileContext) (m : Match ctx.tree) :
    (fixIgnore ctx m).Sound ctx.source := by
  unfold fixIgnore
  split
  next => exact FixOutcome.sound_manual (by decide)
  next offset hoffset =>
    obtain ⟨front, back, -, htext, rfl⟩ := exists_of_directiveOffset? hoffset
    refine FixOutcome.sound_propose fun e he => ?_
    rw [List.mem_singleton.1 he]
    refine Edit.fits_replace ⟨ignoreDirective, ?_⟩ _
    rw [Span.between, if_pos (by omega)]
    exact slice?_within htext

/-! ## Enums -/

/-- Every place between characters has a line, and the line an indent. -/
theorem exists_indentAt? {source : String} {offset : Nat} (h : Text.IsBoundary source offset) :
    ∃ indent, indentAt? source offset = some indent := by
  have hfirst : Text.IsBoundary source 0 := Text.isBoundary_iff.2 ⟨"", source, by simp, by simp⟩
  have hlast : Text.IsBoundary source source.utf8ByteSize :=
    Text.isBoundary_iff.2 ⟨source, "", by simp, rfl⟩
  obtain ⟨front, hfront⟩ :=
    Span.slices_of_boundaries (s := ⟨0, offset⟩) (Nat.zero_le offset) hfirst h
  obtain ⟨back, hback⟩ :=
    Span.slices_of_boundaries (s := ⟨offset, source.utf8ByteSize⟩) h.le_size h hlast
  unfold indentAt?
  rw [show Text.slice? source 0 offset = some front from hfront,
    show Text.slice? source offset source.utf8ByteSize = some back from hback]
  exact ⟨_, rfl⟩

theorem enumMember_error_ne {t : SyntaxTree} {next : Option Int} {member : Node t} {reason : String}
    (h : enumMember next member = .error reason) : reason ≠ Proposal.staleReason := by
  unfold enumMember at h
  split at h
  next =>
    split at h
    next =>
      split at h
      next =>
        split at h
        next => cases h
        next =>
          cases h
          decide
      next => cases h
      next =>
        cases h
        decide
    next =>
      cases h
      decide
  next =>
    split at h
    next =>
      cases h
      decide
    next => cases h

/-- Why the members of an enum cannot be told is never that a fix does not apply. -/
theorem enumMembersFrom_error_ne {t : SyntaxTree} {reason : String} :
    ∀ {nodes : List (Node t)} {next : Option Int} {seen : Option EnumValueKind},
      enumMembersFrom next seen nodes = .error reason → reason ≠ Proposal.staleReason
  | [], next, seen, h => by cases h
  | node :: rest, next, seen, h => by
    rw [enumMembersFrom] at h
    split at h
    next reason' hmember =>
      cases h
      exact enumMember_error_ne hmember
    next member hmember =>
      split at h
      next =>
        cases h
        decide
      next =>
        split at h
        next =>
          cases h
          decide
        next =>
          cases hrest : enumMembersFrom member.next (some member.kind) rest with
          | ok members =>
            rw [hrest] at h
            cases h
          | error reason' =>
            rw [hrest] at h
            cases h
            exact enumMembersFrom_error_ne hrest

theorem sound_fixEnum : (Fixer.custom fixEnum).Sound := by
  intro ctx m
  show ∃ outcome, fixEnum ctx m = .ok outcome ∧ _
  unfold fixEnum
  simp only
  split
  next => exact ⟨_, rfl, FixOutcome.sound_manual (by decide)⟩
  next =>
    split
    next name body _ _ =>
      split
      next reason hreason =>
        exact ⟨_, rfl, FixOutcome.sound_manual (enumMembersFrom_error_ne hreason)⟩
      next => exact ⟨_, rfl, FixOutcome.sound_manual (by decide)⟩
      next members _ _ =>
        -- the replaced node is the enum or the `export` around it; either starts between characters
        obtain ⟨indent, hindent⟩ := exists_indentAt?
          ((m.node.parent.filter (·.kind == "export_statement")).getD m.node).span_fits.2.1
        rw [show indentAt? ctx.source _ = some indent from hindent]
        exact ⟨_, rfl, FixOutcome.sound_propose_replace _ _ _⟩
    next => exact ⟨_, rfl, FixOutcome.sound_manual (by decide)⟩

/-! ## Type parameters -/

/-- Why a type parameter cannot go. -/
theorem removable_error_mem {ctx : FileContext} {param : Node ctx.tree} {reason : String}
    (h : removable ctx param = .error reason) :
    reason ∈ ["type parameter not indexed", "type parameter links two positions",
      "type parameter is also used in the body", "type parameter only fixes the return type",
      "type parameter is referenced by another type parameter"] := by
  unfold removable at h
  split at h
  next =>
    cases h
    decide
  next use _ =>
    split at h
    next =>
      cases h
      decide
    next =>
      split at h
      next =>
        cases h
        decide
      next =>
        split at h
        next =>
          cases h
          decide
        next =>
          split at h
          next =>
            simp only at h
            split at h
            next =>
              cases h
              decide
            next => cases h
          next => cases h

theorem removable_error_ne {ctx : FileContext} {param : Node ctx.tree} {reason : String}
    (h : removable ctx param = .error reason) : reason ≠ Proposal.staleReason := by
  rintro rfl
  exact absurd (removable_error_mem h) (by decide)

/-- The last position of a list of flags that is not set is one of its positions, and not set. -/
theorem of_getLast?_kept {removed : List Bool} {lastKept : Nat}
    (h : ((removed.zipIdx.filter (!·.1)).map (·.2)).getLast? = some lastKept) :
    removed[lastKept]? = some false := by
  obtain ⟨e, he, rfl⟩ := List.mem_map.1 (List.mem_of_getLast? h)
  obtain ⟨hmem, hflag⟩ := List.mem_filter.1 he
  have hget := List.mem_zipIdx_iff_getElem?.1 hmem
  rw [hget]
  simpa using hflag

/-- Both ends of the span lie between characters. -/
def Bounded (source : String) (s : Span) : Prop :=
  Text.IsBoundary source s.start ∧ Text.IsBoundary source s.stop

/-- A removed parameter has a neighbour on the side that its deletion reaches to. -/
theorem removalSpan_ok {source : String} {spans : List Span} {removed : List Bool}
    {lastKept i : Nat} {span : Span} (hlength : spans.length = removed.length)
    (hspans : ∀ s ∈ spans, Bounded source s) (hlast : removed[lastKept]? = some false)
    (hspan : spans[i]? = some span) (hremoved : removed[i]? = some true) :
    ∃ s, removalSpan spans lastKept i span = .ok s ∧ s.Slices source := by
  have hbound := hspans span (List.mem_of_getElem? hspan)
  have hlt := (List.getElem?_eq_some_iff.1 hspan).1
  have hkept := (List.getElem?_eq_some_iff.1 hlast).1
  -- what is removed is not what is kept last
  have hne : i ≠ lastKept := by
    intro heq
    rw [heq, hlast] at hremoved
    cases hremoved
  unfold removalSpan
  split
  next hbefore =>
    obtain ⟨next, hnext⟩ : ∃ next, spans[i + 1]? = some next :=
      ⟨_, List.getElem?_eq_getElem (by omega)⟩
    rw [hnext]
    exact ⟨_, rfl, Span.slices_between hbound.1 (hspans _ (List.mem_of_getElem? hnext)).1⟩
  next hafter =>
    split
    next => omega
    next before =>
      obtain ⟨previous, hprevious⟩ : ∃ previous, spans[before]? = some previous :=
        ⟨_, List.getElem?_eq_getElem (by omega)⟩
      rw [hprevious]
      exact ⟨_, rfl, Span.slices_between (hspans _ (List.mem_of_getElem? hprevious)).2 hbound.2⟩

/-- Whatever is removed, the deletions can be told and are over the text. -/
theorem removalSpans_ok {source : String} {list : Span} {spans : List Span} {removed : List Bool}
    (hlength : spans.length = removed.length) (hlist : list.Slices source)
    (hspans : ∀ s ∈ spans, Bounded source s) :
    ∃ out, removalSpans list spans removed = .ok out ∧ ∀ s ∈ out, s.Slices source := by
  unfold removalSpans
  split
  next => exact ⟨[list], rfl, fun s hs => by rw [List.mem_singleton.1 hs]; exact hlist⟩
  next lastKept hlast =>
    have hkept := of_getLast?_kept hlast
    refine mapM_ok fun e he => ?_
    obtain ⟨hmem, hflag⟩ := List.mem_filter.1 he
    have hget := List.mem_zipIdx_iff_getElem?.1 hmem
    obtain ⟨hspan, hremoved⟩ := List.getElem?_zip_eq_some.1 hget
    refine removalSpan_ok hlength hspans hkept hspan ?_
    rw [hremoved, hflag]

theorem sound_fixUnneeded : (Fixer.custom fixUnneeded).Sound := by
  intro ctx m
  show ∃ outcome, fixUnneeded ctx m = .ok outcome ∧ _
  unfold fixUnneeded
  simp only
  split
  next reason hreason =>
    exact ⟨_, rfl, FixOutcome.sound_manual (removable_error_ne hreason)⟩
  next =>
    split
    next => exact ⟨_, rfl, FixOutcome.sound_manual (by decide)⟩
    next list _ =>
      split
      next lead _ =>
        refine ⟨_, rfl, FixOutcome.sound_manual ?_⟩
        rw [String.append_assoc]
        exact Text.append_ne_of_head? (by rfl) (by decide) _
      next =>
        have hbounded : ∀ s ∈ list.typeParameters.map (·.span), Bounded ctx.source s := by
          intro s hs
          obtain ⟨p, -, rfl⟩ := List.mem_map.1 hs
          exact p.span_fits.2
        obtain ⟨out, hout, hslices⟩ : ∃ out, removalSpans list.span
            (list.typeParameters.map (·.span)) (list.typeParameters.map fun p =>
              (list.typeParameters.filterMap fun p => (removable ctx p).toOption).any
                (·.param == p)) = .ok out ∧ ∀ s ∈ out, s.Slices ctx.source :=
          removalSpans_ok (by rw [List.length_map, List.length_map]) list.slices_span hbounded
        -- what is deleted lies between parameters, what is replaced is a node
        unfold removals
        rw [hout]
        refine ⟨_, rfl, FixOutcome.sound_propose fun e he => ?_⟩
        rcases List.mem_append.1 he with he | he
        · obtain ⟨s, hs, rfl⟩ := List.mem_map.1 he
          exact Edit.fits_delete (hslices s hs)
        · obtain ⟨r, -, hr⟩ := List.mem_filterMap.1 he
          obtain ⟨reference, -, rfl⟩ := Option.map_eq_some_iff.1 hr
          exact Edit.fits_replace reference.slices_span _

/-! ## All rules -/

/-- Every built-in fixer is sound. -/
theorem fixer_sound {r : Rule} (hr : r ∈ rules) : ∀ fixer, r.fixer = some fixer → fixer.Sound := by
  intro fixer h
  simp only [rules, List.mem_cons, List.not_mem_nil, or_false] at hr
  -- in the order of the catalog; a rule without a fixer leaves nothing to show
  rcases hr with rfl | rfl | rfl | rfl | rfl | rfl | rfl | rfl | rfl | rfl | rfl | rfl | rfl | rfl |
    rfl | rfl | rfl | rfl | rfl | rfl | rfl | rfl | rfl <;> cases h
  · exact sound_fixEnum
  · exact Fixer.sound_template _ _ _
  · exact Fixer.sound_custom sound_fixCasualAssertion
  · exact Fixer.sound_custom sound_fixFunctionType
  · exact Fixer.sound_template _ _ _
  · exact Fixer.sound_template _ _ _
  · exact Fixer.sound_template _ _ _
  · exact sound_fixUnneeded
  · exact Fixer.sound_custom sound_fixMethodShorthand
  · exact Fixer.sound_template _ _ _
  · exact Fixer.sound_custom sound_fixEmptyInterface
  · exact Fixer.sound_template _ _ _
  · exact Fixer.sound_custom sound_fixWrapper
  · exact Fixer.sound_custom sound_fixIgnore
  · exact Fixer.sound_template _ _ _
  · exact Fixer.sound_template _ _ _

/-- **No built-in rule breaks down**, and every fix it proposes can be made. -/
theorem rule_safe {r : Rule} (hr : r ∈ rules) : r.Safe := by
  have hfixes := fixer_sound hr
  simp only [rules, List.mem_cons, List.not_mem_nil, or_false] at hr
  rcases hr with rfl | rfl | rfl | rfl | rfl | rfl | rfl | rfl | rfl | rfl | rfl | rfl | rfl | rfl |
    rfl | rfl | rfl | rfl | rfl | rfl | rfl | rfl | rfl <;>
  exact ⟨fun ctx n => ⟨_, rfl⟩, fun confirm h ctx m => by cases h <;> exact ⟨_, rfl⟩, hfixes⟩

end Catalog

end TypeLint
