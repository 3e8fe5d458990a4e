import TypeLint.Allow.Directive

/-!
# Reading undoes the writing of directives

`Written` is a directive the way people type it: one identifier or more, each with whatever white
space stands around it, and perhaps a reason. It can stand in a line comment or in a block comment, and
reading either gives the identifiers and the reason back: `reading_undoes_writing`.

The reader takes the comment apart from the outside in, and there is one lemma for each layer: the marks
of the comment (`commentBody?_comment`), the list (`cut?_listed`, `identifiers_joined`) and the reason
(`reason?_clause`). Every layer is trimmed before it is looked at. What keeps a trim from eating into a
layer is that a directive ends with a parenthesis or a quote (`getLast?_closing`), which is neither white
space nor the end of a mark.
-/

namespace TypeLint.Allow

open TypeLint.Text

/-! ## Writing -/

/-- White space of any amount. -/
structure Gap where
  text : String
  blank : ∀ c ∈ text.toList, isBlank c = true

/-- No white space at all. -/
def Gap.none : Gap := ⟨"", fun c hc => by simp at hc⟩

theorem Gap.notMem (g : Gap) {c : Char} (h : isBlank c = false) : c ∉ g.text.toList := by
  intro hmem
  rw [g.blank c hmem] at h
  cases h

/-- An identifier in a list, with the white space around it, which is not part of the identifier. -/
structure Item where
  before : Gap
  id : String
  behind : Gap
  nonempty : id.toList ≠ []
  bare : Bare id.toList
  noComma : ',' ∉ id.toList
  noParenthesis : ')' ∉ id.toList

/-- A reason, with the white space before its name and before its opening quote. -/
structure Reason where
  beforeName : Gap
  beforeQuote : Gap
  text : String
  noQuote : '"' ∉ text.toList

/-- A directive as it is typed, with the white space that sets it off from the marks of its comment. -/
structure Written where
  front : Gap
  beforeAllow : Gap
  first : Item
  others : List Item
  reason : Option Reason
  back : Gap

/-- The two kinds of comment. -/
inductive CommentStyle where
  | line
  | block
  deriving DecidableEq, Repr

def CommentStyle.openMark : CommentStyle → String
  | .line => "//"
  | .block => "/*"

def CommentStyle.closeMark : CommentStyle → String
  | .line => ""
  | .block => "*/"

def Item.text (i : Item) : String := i.before.text ++ i.id ++ i.behind.text

def Reason.clause (r : Reason) : String :=
  r.beforeName.text ++ "reason=" ++ r.beforeQuote.text ++ "\"" ++ r.text ++ "\""

namespace Written

/-- The identifiers, in order. -/
def ids (w : Written) : List String := (w.first :: w.others).map (·.id)

/-- What stands behind the list: the parenthesis, and the reason if there is one. -/
def closing (w : Written) : String := ")" ++ (w.reason.map Reason.clause).getD ""

/-- The directive up to the end of the list. -/
def opening (w : Written) : String :=
  "typesmith:" ++ w.beforeAllow.text ++ "allow(" ++
    ",".intercalate ((w.first :: w.others).map Item.text)

/-- The directive without the comment around it. -/
def body (w : Written) : String := w.opening ++ w.closing

/-- The comment that holds the directive. -/
def comment (w : Written) (style : CommentStyle) : String :=
  style.openMark ++ w.front.text ++ w.body ++ w.back.text ++ style.closeMark

end Written

/-! ## The end of a directive -/

section Closing

variable (w : Written) (cs : List Char)

/-- A directive ends with the parenthesis of its list or with the quote of its reason. -/
theorem getLast?_closing :
    (cs ++ w.closing.toList).getLast? = some ')' ∨ (cs ++ w.closing.toList).getLast? = some '"' := by
  unfold Written.closing
  cases w.reason with
  | none => exact Or.inl (by simp)
  | some r =>
    refine Or.inr ?_
    have hquote : "\"".toList = ['"'] := rfl
    rw [Option.map_some, Option.getD_some, Reason.clause, String.toList_append,
      String.toList_append (t := "\""), hquote, ← List.append_assoc, ← List.append_assoc,
      List.getLast?_concat]

/-- So it is bare once it starts with something. -/
theorem bare_append_closing {c : Char} {cs : List Char} (hc : isBlank c = false)
    (hhead : cs.head? = some c) : Bare (cs ++ w.closing.toList) := by
  have hfront : (cs ++ w.closing.toList).head? = some c := by
    rw [List.head?_append, hhead, Option.some_or]
  rcases getLast?_closing w cs with hlast | hlast
  · exact .of_ends hfront hc hlast rfl
  · exact .of_ends hfront hc hlast rfl

/-- Nor does it end like a block comment, whatever white space follows. -/
theorem getLast?_closing_ne (g : Gap) :
    (cs ++ w.closing.toList ++ g.text.toList).getLast? ≠ some '/' := by
  rw [List.getLast?_append]
  cases hgap : g.text.toList.getLast? with
  | none =>
    rw [Option.none_or]
    rcases getLast?_closing w cs with hlast | hlast
    · rw [hlast]
      decide
    · rw [hlast]
      decide
  | some c =>
    intro hc
    cases hc
    exact g.notMem rfl (List.mem_of_getLast? hgap)

end Closing

/-! ## The list -/

/-- The items with commas between them. -/
def joined (items : List Item) : List Char := [','].intercalate (items.map (·.text.toList))

theorem Item.toList_text (i : Item) :
    i.text.toList = i.before.text.toList ++ i.id.toList ++ i.behind.text.toList := by
  rw [text, String.toList_append, String.toList_append]

/-- A character that is not white space stands in an item only if it does in the identifier. -/
theorem Item.notMem_text (i : Item) {c : Char} (hblank : isBlank c = false) (hid : c ∉ i.id.toList) :
    c ∉ i.text.toList := by
  rw [toList_text, List.mem_append, List.mem_append]
  rintro ((hmem | hmem) | hmem)
  · exact i.before.notMem hblank hmem
  · exact hid hmem
  · exact i.behind.notMem hblank hmem

/-- What follows the first item of a list does not depend on that item. -/
theorem exists_joined_cons (items : List Item) :
    ∃ rest, (')' ∉ joined items → ')' ∉ rest) ∧ ∀ i, joined (i :: items) = i.text.toList ++ rest := by
  cases items with
  | nil => exact ⟨[], fun _ => List.not_mem_nil, fun i => by simp [joined]⟩
  | cons j items =>
    refine ⟨',' :: joined (j :: items), fun h => ?_, fun i => by simp [joined]⟩
    rw [List.mem_cons, not_or]
    exact ⟨by decide, h⟩

theorem parenthesis_notMem_joined (items : List Item) : ')' ∉ joined items := by
  induction items with
  | nil => simp [joined]
  | cons i items ih =>
    obtain ⟨rest, hrest, hjoined⟩ := exists_joined_cons items
    rw [hjoined, List.mem_append, not_or]
    exact ⟨i.notMem_text rfl i.noParenthesis, hrest ih⟩

/-- The identifiers of a list are those of its items. -/
theorem identifiers_joined {items : List Item} (hne : items ≠ []) :
    identifiers (joined items) = (items.map (·.id)).eraseDups := by
  have hsplit : splitAt ',' (joined items) = items.map (·.text.toList) := by
    refine splitAt_intercalate (by simpa using hne) fun part hpart => ?_
    obtain ⟨i, -, rfl⟩ := List.mem_map.1 hpart
    exact i.notMem_text rfl i.noComma
  have htrim : (items.map (·.text.toList)).map trim = items.map (·.id.toList) := by
    rw [List.map_map]
    refine List.map_congr_left fun i _ => ?_
    rw [Function.comp_apply, i.toList_text, i.bare.trim_between i.before.blank i.behind.blank]
  have hfilter : (items.map (·.id.toList)).filter (!·.isEmpty) = items.map (·.id.toList) := by
    refine List.filter_eq_self.2 fun part hpart => ?_
    obtain ⟨i, -, rfl⟩ := List.mem_map.1 hpart
    simpa using i.nonempty
  have hofList : (items.map (·.id.toList)).map String.ofList = items.map (·.id) := by
    rw [List.map_map]
    exact List.map_congr_left fun i _ => String.ofList_toList
  rw [identifiers, hsplit, htrim, hfilter, hofList]

/-- The trim in front of the list takes the white space of the first item, which no longer matters. -/
theorem cut?_listed (w : Written) :
    ∃ items : List Item, items ≠ [] ∧ items.map (·.id) = w.ids ∧
      cut? ')' (trim (joined (w.first :: w.others) ++ w.closing.toList)) =
        some (joined items, ((w.reason.map Reason.clause).getD "").toList) := by
  let flush : Item := { w.first with before := .none }
  have hflush : flush.text.toList = w.first.id.toList ++ w.first.behind.text.toList := by
    rw [flush.toList_text]
    rfl
  obtain ⟨rest, -, hrest⟩ := exists_joined_cons w.others
  have hjoined : joined (w.first :: w.others) =
      w.first.before.text.toList ++ joined (flush :: w.others) := by
    rw [hrest, hrest, hflush, w.first.toList_text, List.append_assoc, List.append_assoc,
      List.append_assoc]
  have hbare : Bare (joined (flush :: w.others) ++ w.closing.toList) := by
    obtain ⟨c, cs, hid⟩ := List.exists_cons_of_ne_nil w.first.nonempty
    have hhead : (joined (flush :: w.others)).head? = some c := by
      rw [hrest, hflush, hid]
      rfl
    exact bare_append_closing w (w.first.bare.front c (by rw [hid, List.head?_cons])) hhead
  refine ⟨flush :: w.others, List.cons_ne_nil _ _, rfl, ?_⟩
  have hclosing : w.closing.toList = ')' :: ((w.reason.map Reason.clause).getD "").toList := by
    rw [Written.closing, String.toList_append]
    rfl
  rw [hjoined, List.append_assoc, hbare.trim_append w.first.before.blank, hclosing,
    cut?_append (parenthesis_notMem_joined _)]

/-! ## The reason -/

theorem reason?_clause (reason : Option Reason) :
    reason? ((reason.map Reason.clause).getD "").toList = reason.map (·.text) := by
  cases reason with
  | none => rfl
  | some r =>
    let quoted : List Char := '"' :: (r.text.toList ++ ['"'])
    have hclause : r.clause.toList =
        r.beforeName.text.toList ++ ("reason=".toList ++ (r.beforeQuote.text.toList ++ quoted)) := by
      simp [Reason.clause, quoted]
    have hlast : ∀ cs : List Char, (cs ++ quoted).getLast? = some '"' := by
      intro cs
      simp [quoted, List.getLast?_cons]
    have hname : Bare ("reason=".toList ++ (r.beforeQuote.text.toList ++ quoted)) := by
      refine .of_ends (a := 'r') (b := '"') rfl rfl ?_ rfl
      rw [← List.append_assoc, hlast]
    have hquoted : Bare quoted := .of_ends (a := '"') rfl rfl (hlast []) rfl
    have hopen : after? ['"'] quoted = some (r.text.toList ++ ['"']) := after?_append ['"'] _
    rw [Option.map_some, Option.getD_some, hclause, reason?, hname.trim_append r.beforeName.blank,
      after?_append, Option.bind_eq_bind, Option.bind_some,
      hquoted.trim_append r.beforeQuote.blank, hopen, Option.bind_eq_bind, Option.bind_some,
      cut?_append r.noQuote]
    show some (String.ofList r.text.toList) = some r.text
    rw [String.ofList_toList]

/-! ## The comment -/

variable (w : Written)

theorem toList_opening : w.opening.toList =
    "typesmith:".toList ++ (w.beforeAllow.text.toList ++ ("allow(".toList ++
      joined (w.first :: w.others))) := by
  have hcomma : ",".toList = [','] := rfl
  simp only [Written.opening, joined, String.toList_append, String.toList_intercalate, List.map_map,
    hcomma, List.append_assoc]
  rfl

theorem head?_opening : w.opening.toList.head? = some 't' := by
  rw [toList_opening]
  rfl

theorem head?_body_append (rest : List Char) : (w.body.toList ++ rest).head? = some 't' := by
  rw [Written.body, String.toList_append, List.append_assoc, List.head?_append, head?_opening,
    Option.some_or]

theorem bare_body : Bare w.body.toList := by
  rw [Written.body, String.toList_append]
  exact bare_append_closing w rfl (head?_opening w)

/-- White space and a directive are not taken for marks. -/
theorem dropFront_marks (rest : List Char) :
    dropFront (fun c => c = '/' || c = '*') (w.front.text.toList ++ (w.body.toList ++ rest)) =
      w.front.text.toList ++ (w.body.toList ++ rest) := by
  cases hfront : w.front.text.toList with
  | nil =>
    refine dropFront_append (fun c hc => by cases hc) fun c hc => ?_
    rw [head?_body_append] at hc
    cases hc
    rfl
  | cons d ds =>
    have hne : ∀ c, isBlank c = false → d ≠ c := by
      rintro c hc rfl
      exact w.front.notMem hc (by rw [hfront]; exact List.mem_cons_self)
    have hmark : (decide (d = '/') || decide (d = '*')) = false := by
      simp [hne '/' rfl, hne '*' rfl]
    exact List.dropWhile_cons_of_neg (by simp [hmark])

/-- What is left of a comment is the directive in it. -/
theorem commentBody?_comment (style : CommentStyle) :
    commentBody? (w.comment style).toList = some w.body.toList := by
  have hmark : ∀ rest, commentBody? (style.openMark.toList ++ rest) =
      some (trim (dropTails "*/".toList (trim (dropFront (fun c => c = '/' || c = '*') rest)))) := by
    intro rest
    cases style <;> rfl
  have hcomment : (w.comment style).toList = style.openMark.toList ++ (w.front.text.toList ++
      (w.body.toList ++ (w.back.text.toList ++ style.closeMark.toList))) := by
    simp only [Written.comment, String.toList_append, List.append_assoc]
  have hslash : ∀ g : Gap, (w.body.toList ++ g.text.toList).getLast? ≠ some '/' := by
    intro g
    rw [Written.body, String.toList_append]
    exact getLast?_closing_ne w _ g
  have htrim : ∀ g : Gap, trim (w.body.toList ++ g.text.toList) = w.body.toList := by
    intro g
    have hbetween : trim ([] ++ w.body.toList ++ g.text.toList) = w.body.toList :=
      (bare_body w).trim_between (fun c hc => by cases hc) g.blank
    rwa [List.nil_append] at hbetween
  have hmarks : "*/".toList = ['*'] ++ ['/'] := rfl
  rw [hcomment, hmark, dropFront_marks, hmarks]
  cases style with
  | line =>
    have hclose : CommentStyle.line.closeMark.toList = [] := rfl
    have hinner : trim (w.front.text.toList ++ (w.body.toList ++ w.back.text.toList)) =
        w.body.toList ++ Gap.none.text.toList := by
      rw [← List.append_assoc, Gap.none, String.toList_empty, List.append_nil]
      exact (bare_body w).trim_between w.front.blank w.back.blank
    rw [hclose, List.append_nil, hinner, dropTails_of_getLast? (hslash .none), htrim]
  | block =>
    have hclose : CommentStyle.block.closeMark.toList = ['*'] ++ ['/'] := rfl
    have hinner : Bare (w.body.toList ++ (w.back.text.toList ++ (['*'] ++ ['/']))) := by
      refine .of_ends (b := '/') (head?_body_append w _) rfl ?_ rfl
      rw [← List.append_assoc, ← List.append_assoc, List.getLast?_concat]
    rw [hclose, hinner.trim_append w.front.blank, ← List.append_assoc, dropTails_append (hslash w.back),
      htrim]

/-- **Reading undoes writing.** A directive in a line comment or in a block comment, with any white space
between its parts, is read as the identifiers that were listed, each once, and the reason that was
given. -/
theorem reading_undoes_writing (style : CommentStyle) :
    ∃ d, Directive.parse? (w.comment style) = some d ∧
      d.rules = w.ids.eraseDups ∧ (∀ id, id ∈ d.rules ↔ id ∈ w.ids) ∧
      d.reason = w.reason.map (·.text) := by
  obtain ⟨items, hne, hids, hcut⟩ := cut?_listed w
  have hbody : w.body.toList = "typesmith:".toList ++ (w.beforeAllow.text.toList ++
      ("allow(".toList ++ (joined (w.first :: w.others) ++ w.closing.toList))) := by
    rw [Written.body, String.toList_append, toList_opening, List.append_assoc, List.append_assoc,
      List.append_assoc]
  have hallow : Bare ("allow(".toList ++ (joined (w.first :: w.others) ++ w.closing.toList)) := by
    rw [← List.append_assoc]
    exact bare_append_closing w (c := 'a') rfl rfl
  have hrules : w.ids.eraseDups = identifiers (joined items) := by
    rw [identifiers_joined hne, hids]
  refine ⟨⟨w.ids.eraseDups, w.reason.map (·.text)⟩, ?_, rfl, fun id => List.mem_eraseDups, rfl⟩
  unfold Directive.parse?
  rw [commentBody?_comment, hbody, Option.bind_eq_bind, Option.bind_some, after?_append,
    Option.bind_eq_bind, Option.bind_some, hallow.trim_append w.beforeAllow.blank, after?_append,
    Option.bind_some, hcut, Option.bind_some]
  show (if (identifiers (joined items)).isEmpty = true then none
    else some (Directive.mk (identifiers (joined items)) (reason? _))) = _
  rw [← hrules, reason?_clause, if_neg]
  rw [Written.ids, List.map_cons, List.eraseDups_cons]
  exact Bool.false_ne_true

/-- One blank. -/
def Gap.space : Gap := ⟨" ", List.forall_mem_singleton.2 rfl⟩

/-- A directive for two rules, with a reason. -/
def thirdParty : Written where
  front := .space
  beforeAllow := .space
  first := ⟨.none, "no-explicit-any", .none, by decide, .of_ends rfl rfl rfl rfl, by decide, by decide⟩
  others := [⟨.space, "TY003", .none, by decide, .of_ends rfl rfl rfl rfl, by decide, by decide⟩]
  reason := some ⟨.space, .none, "third-party callback", by decide⟩
  back := .none

theorem reading_undoes_writing_thirdParty :
    thirdParty.comment .line =
      "// typesmith: allow(no-explicit-any, TY003) reason=\"third-party callback\"" ∧
    ∃ d, Directive.parse? (thirdParty.comment .line) = some d ∧
      d.rules = ["no-explicit-any", "TY003"] ∧ d.reason = some "third-party callback" := by
  obtain ⟨d, hparse, hrules, -, hreason⟩ := reading_undoes_writing thirdParty .line
  exact ⟨by decide, d, hparse, hrules, hreason⟩

end TypeLint.Allow
