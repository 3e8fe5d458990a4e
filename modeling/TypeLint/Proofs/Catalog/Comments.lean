import TypeLint.Proofs.Catalog.Fixers
import TypeLint.Proofs.Fix.Simultaneous

/-!
# Rewriting a compiler comment

The rule for compiler comments finds its directive from the left: behind the opening of the comment, more
marks and white space, and it counts bytes from the right. `directiveOffset?_append` says what the two
come to: behind a text that may lead to a directive, the answer depends on the word that follows and on
nothing else, and where there is one it is the size of that text.

So the rewrite hits the directive, whatever the width of the white space before it, and the rewritten
comment leads to another word, which is not the directive: `rewritten_comment_is_final`.
-/

namespace TypeLint.Catalog

open Text

/-- Behind what may lead to a directive only the word that follows matters. -/
theorem directiveOffset?_append {front word : String} (hfront : Leads front.toList)
    (hword : word.toList.head? = some '@') :
    directiveOffset? (front ++ word) =
      (after? ignoreDirective.toList word.toList).bind fun rest =>
        if rest.head?.any continuesWord then none else some front.utf8ByteSize := by
  obtain ⟨opening, marks, blanks, hlead, hopening, hmarks, hblanks⟩ := hfront
  have hat : ∀ c, word.toList.head? = some c → c = '@' := by
    intro c hc
    rw [hword] at hc
    exact (Option.some.inj hc).symm
  have hbody : (after? "//".toList (front ++ word).toList).or
      (after? "/*".toList (front ++ word).toList) = some (marks ++ (blanks ++ word.toList)) := by
    rw [String.toList_append, hlead, List.append_assoc, List.append_assoc]
    rcases hopening with rfl | rfl
    · rw [after?_append, Option.some_or]
    · have hline : after? "//".toList ("/*".toList ++ (marks ++ (blanks ++ word.toList))) = none := rfl
      rw [hline, Option.none_or, after?_append]
  -- the run of marks ends at white space or at the word, and white space ends at the word
  have hrun : dropFront (fun c => c = '*' || c = '/') (marks ++ (blanks ++ word.toList)) =
      blanks ++ word.toList := by
    refine dropFront_append hmarks fun c hc => ?_
    cases blanks with
    | nil =>
      rw [hat c hc]
      rfl
    | cons b blanks =>
      have hbc : b = c := Option.some.inj hc
      have hblank : isBlank c = true := hbc ▸ hblanks b List.mem_cons_self
      refine Bool.eq_false_iff.2 fun hmark => ?_
      rw [Bool.or_eq_true, decide_eq_true_eq, decide_eq_true_eq] at hmark
      rcases hmark with rfl | rfl
      · exact absurd hblank (by decide)
      · exact absurd hblank (by decide)
  have htrim : trimFront (blanks ++ word.toList) = word.toList := by
    refine dropFront_append hblanks fun c hc => ?_
    rw [hat c hc]
    rfl
  have hsize : (front ++ word).utf8ByteSize - word.utf8ByteSize = front.utf8ByteSize := by
    rw [String.utf8ByteSize_append]
    omega
  unfold directiveOffset?
  simp only [hbody, Option.bind_eq_bind, Option.bind_some, hrun, htrim, String.ofList_toList, hsize]

/-- The other directive is not the one to replace. -/
theorem directiveOffset?_expect {front : String} (hfront : Leads front.toList) (back : String) :
    directiveOffset? (front ++ expectDirective ++ back) = none := by
  have hother : after? ignoreDirective.toList (expectDirective ++ back).toList = none := by
    rw [String.toList_append]
    rfl
  have hword : (expectDirective ++ back).toList.head? = some '@' := by
    rw [String.toList_append]
    rfl
  rw [String.append_assoc, directiveOffset?_append hfront hword, hother, Option.bind_none]

/-- The rule fires on the comments that have a directive to replace. -/
theorem evaluate_preferTsExpectError (ctx : FileContext) (n : Node ctx.tree) :
    preferTsExpectError.evaluate ctx n =
      .ok (if n.kind = "comment" ∧ (directiveOffset? n.text).isSome = true then some .empty
        else none) := by
  unfold preferTsExpectError Rule.evaluate
  simp only [Bool.and_eq_true, beq_iff_eq]

/-- A fix by one edit has nothing to sort and nothing to compare. -/
theorem propose_singleton (description : String) (e : Edit) :
    FixOutcome.propose description [e] = .proposed ⟨description, .high, [e], 0⟩ := by
  have hsorted : Edit.sorted [e] = [e] := List.mergeSort_singleton e
  unfold FixOutcome.propose Fix.make
  rw [hsorted]
  rfl

/-- The fix of a comment that has the directive replaces it where it stands in the file. -/
theorem fixIgnore_of_directive {ctx : FileContext} {m : Match ctx.tree} {front back : String}
    (htext : m.node.text = front ++ ignoreDirective ++ back)
    (hoffset : directiveOffset? m.node.text = some front.utf8ByteSize) :
    ∃ fix, fixIgnore ctx m = .proposed fix ∧
      fix.edits = [⟨⟨m.node.span.start + front.utf8ByteSize,
        m.node.span.start + front.utf8ByteSize + ignoreDirective.utf8ByteSize⟩,
        expectDirective, ignoreDirective⟩] := by
  have hedit : Edit.replace ctx.source (.between (m.node.span.start + front.utf8ByteSize)
      (m.node.span.start + front.utf8ByteSize + ignoreDirective.utf8ByteSize)) expectDirective =
      ⟨⟨m.node.span.start + front.utf8ByteSize,
        m.node.span.start + front.utf8ByteSize + ignoreDirective.utf8ByteSize⟩,
        expectDirective, ignoreDirective⟩ := by
    have hslice : slice? ctx.source (m.node.span.start + front.utf8ByteSize)
        (m.node.span.start + front.utf8ByteSize + ignoreDirective.utf8ByteSize) =
        some ignoreDirective := slice?_within htext
    rw [Span.between, if_pos (Nat.le_add_right _ _), Edit.replace, hslice, Option.getD_some]
  unfold fixIgnore
  rw [hoffset]
  simp only [hedit, propose_singleton]
  exact ⟨_, rfl, rfl⟩

/-- **The rewrite hits the directive and is final.** Where a comment has a directive to replace, it
stands at the offset found and between characters there. The fix replaces these ten bytes in the file and
nothing else, and can be made; in the comment that comes out there is no directive to replace, so that
the rule, which fires on the comment as it was, does not fire on it again. -/
theorem rewritten_comment_is_final {comment : String} {offset : Nat}
    (h : directiveOffset? comment = some offset) :
    slice? comment offset (offset + 10) = some "@ts-ignore" ∧
    ∃ front back, comment = front ++ "@ts-ignore" ++ back ∧ front.utf8ByteSize = offset ∧
      directiveOffset? (front ++ "@ts-expect-error" ++ back) = none ∧
      (∀ (ctx : FileContext) (n : Node ctx.tree), n.kind = "comment" → n.text = comment →
        preferTsExpectError.evaluate ctx n = .ok (some .empty)) ∧
      (∀ (ctx : FileContext) (n : Node ctx.tree), n.text = front ++ "@ts-expect-error" ++ back →
        preferTsExpectError.evaluate ctx n = .ok none) ∧
      ∀ (ctx : FileContext) (m : Match ctx.tree), m.node.text = comment →
        ∃ fix before after, fixIgnore ctx m = .proposed fix ∧
          fix.edits = [⟨⟨m.node.span.start + offset, m.node.span.start + offset + 10⟩,
            "@ts-expect-error", "@ts-ignore"⟩] ∧
          ctx.source = before ++ comment ++ after ∧ before.utf8ByteSize = m.node.span.start ∧
          fix.apply ctx.source = .ok (before ++ (front ++ "@ts-expect-error" ++ back) ++ after) := by
  obtain ⟨front, back, hfront, hcomment, rfl⟩ := exists_of_directiveOffset? h
  have hgone := directiveOffset?_expect hfront back
  refine ⟨?_, front, back, hcomment, rfl, hgone, fun ctx n hkind htext => ?_, fun ctx n htext => ?_,
    fun ctx m htext => ?_⟩
  · rw [hcomment]
    exact slice?_append front ignoreDirective back
  · rw [evaluate_preferTsExpectError, htext, h, if_pos ⟨hkind, rfl⟩]
  · have hnone : directiveOffset? n.text = none := by
      rw [htext]
      exact hgone
    rw [evaluate_preferTsExpectError, hnone, if_neg fun hboth => by cases hboth.2]
  · obtain ⟨fix, hfix, hedits⟩ := fixIgnore_of_directive (htext.trans hcomment) (htext ▸ h)
    obtain ⟨before, after, hsource, hstart, -⟩ := slice?_eq_some_iff.1 m.node.slice?_span
    have hsource : ctx.source = before ++ comment ++ after := htext ▸ hsource
    refine ⟨fix, before, after, hfix, hedits, hsource, hstart.symm, ?_⟩
    have happly := applyEdits_singleton (before ++ front) ignoreDirective (back ++ after)
      expectDirective
    rw [String.utf8ByteSize_append, ← hstart] at happly
    unfold Fix.apply
    rw [hedits, hsource, hcomment]
    simp only [String.append_assoc] at happly ⊢
    exact happly

/-- A comment with white space of three bytes before the directive, which it names again further on. -/
def wideComment : String := "/**\u3000@ts-ignore: not @ts-ignored, @ts-ignore */"

theorem rewritten_comment_is_final_wide :
    directiveOffset? wideComment = some 6 ∧
    slice? wideComment 6 16 = some "@ts-ignore" ∧
    ∃ front back, wideComment = front ++ "@ts-ignore" ++ back ∧ front.utf8ByteSize = 6 ∧
      directiveOffset? (front ++ "@ts-expect-error" ++ back) = none := by
  have h : directiveOffset? wideComment = some 6 := by decide +kernel
  obtain ⟨hslice, front, back, hcomment, hsize, hgone, -⟩ := rewritten_comment_is_final h
  exact ⟨h, hslice, front, back, hcomment, hsize, hgone⟩

end TypeLint.Catalog
