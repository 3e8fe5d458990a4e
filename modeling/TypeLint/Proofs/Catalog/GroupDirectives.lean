import TypeLint.Proofs.Analysis.Complete
import TypeLint.Proofs.Catalog.Inlining

/-!
# Directives and the joint fix

A directive excuses hits one by one, by the line on which each starts. The joint fix does not ask: it
takes out every type parameter of the list that can go, on behalf of the first of them. So it reaches
beyond a directive as soon as the directive is about some of them only. If the first is excused the
others are declined in favour of a fix that nobody proposes; if it is not, its fix deletes those that
are. `group_respects_directives_iff` says that these are the only cases: directives are respected
exactly when they excuse all or none of the type parameters that can go, or when the edits of the
joint fix overlap, so that it is not proposed.
-/

namespace TypeLint.Catalog

variable {rules : RuleSet} {ctx : FileContext} {i : Nat}

/-! ## Hits on type parameters -/

theorem safe_noUnnecessaryTypeParameter : noUnnecessaryTypeParameter.Safe :=
  rule_safe (by simp [Catalog.rules])

/-- A type parameter is hit when the index counts at most one reference to it. -/
theorem findUnneeded_eq_some_iff {n : Node ctx.tree} {captures : Captures ctx.tree} :
    findUnneeded ctx n = some captures ↔
      n.kind = "type_parameter" ∧ ∃ use name uses, ctx.scopes.use? n = some use ∧
        (use.signatureRefs = 0 ∧ uses = "nowhere" ∨ use.signatureRefs = 1 ∧ uses = "once") ∧
        n.child? "name" = some name ∧
        captures = (Captures.empty.bindNode "name" name).bindText "uses" uses := by
  unfold findUnneeded
  by_cases hkind : n.kind = "type_parameter"
  · rw [if_neg (by simp [hkind])]
    cases huse : ctx.scopes.use? n with
    | none => simp
    | some use =>
      cases hname : n.child? "name" with
      | none => rcases hrefs : use.signatureRefs with _ | _ | refs <;> simp [hrefs]
      | some name =>
        rcases hrefs : use.signatureRefs with _ | _ | refs <;> simp [hrefs, hkind, eq_comm]
  · rw [if_pos (bne_iff_ne.2 hkind)]
    simp [hkind]

/-- A hit of the rule is on a type parameter, and stands where that does. -/
theorem span_of_mem_findMatches (hi : rules.rule? i = some noUnnecessaryTypeParameter)
    {m : Match ctx.tree} (hm : m ∈ (findMatches rules ctx).found) (hrule : m.rule = i) :
    m.span = m.node.span := by
  obtain ⟨r, n, captures, hr, hok, hhit⟩ := sound_of_mem_findMatches m hm
  rw [hrule, hi] at hr
  cases hr
  obtain ⟨-, use, name, uses, -, -, -, rfl⟩ := findUnneeded_eq_some_iff.1 (Except.ok.inj hok)
  rw [hhit]
  rfl

/-- A type parameter that can go is hit. -/
theorem exists_hit_of_mem_joint (hi : rules.rule? i = some noUnnecessaryTypeParameter)
    (hscopes : ctx.scopes = .ofTree ctx.tree) {list : Node ctx.tree} {r : Removable ctx.tree}
    (hr : r ∈ joint ctx list) :
    ∃ m ∈ (findMatches rules ctx).found, m.rule = i ∧ m.node = r.param := by
  obtain ⟨hparam, hok⟩ := mem_joint_iff.1 hr
  obtain ⟨use, huse, hof⟩ := of_removable hok
  have hindexed := huse
  rw [hscopes] at hindexed
  obtain ⟨heq, _, hlist⟩ := ScopeIndex.of_use? hindexed
  obtain ⟨name, hname, -⟩ := Option.map_eq_some_iff.1 hlist.name_eq
  rw [heq] at hname
  have hkind : r.param.kind = "type_parameter" := beq_iff_eq.1 (List.mem_filter.1 hparam).2
  obtain ⟨uses, huses⟩ : ∃ uses, use.signatureRefs = 0 ∧ uses = "nowhere" ∨
      use.signatureRefs = 1 ∧ uses = "once" := by
    rcases hof.reference_cases with ⟨hzero, -⟩ | ⟨hone, -⟩
    · exact ⟨_, Or.inl ⟨hzero, rfl⟩⟩
    · exact ⟨_, Or.inr ⟨hone, rfl⟩⟩
  have hfind := findUnneeded_eq_some_iff.2 ⟨hkind, use, name, uses, huse, huses, hname, rfl⟩
  have hmem := hit_mem_findMatches hi safe_noUnnecessaryTypeParameter (congrArg Except.ok hfind)
  exact ⟨_, hmem, rfl, rfl⟩

/-! ## What directives excuse -/

/-- The hit of the rule on the type parameter is excused by a directive. -/
def Suppressed (rules : RuleSet) (ctx : FileContext) (i : Nat) (param : Node ctx.tree) : Prop :=
  ∃ m ∈ (findMatches rules ctx).found, m.rule = i ∧ m.node = param ∧
    (ctx.allowed m.span.start noUnnecessaryTypeParameter.name rules).isAllowed = true

/-- The hit is one of the rule on a type parameter of the list, and it is confirmed. -/
structure Upheld (rules : RuleSet) (ctx : FileContext) (i : Nat) (list : Node ctx.tree)
    (m : Match ctx.tree) : Prop where
  confirmed : m ∈ (confirmMatches rules ctx (findMatches rules ctx).found.toList).confirmed
  rule_eq : m.rule = i
  node_mem : m.node ∈ list.typeParameters

/-- Directives are respected in a list: a fix that is proposed takes out no type parameter that is
excused, and what is declined in favour of the first that can go is so only if that is not excused. -/
structure RespectsDirectives (rules : RuleSet) (ctx : FileContext) (i : Nat) (list : Node ctx.tree) :
    Prop where
  proposed : ∀ m, Upheld rules ctx i list m → ∀ fix, fixUnneeded ctx m = .ok (.proposed fix) →
    ∀ r ∈ joint ctx list, ¬ Suppressed rules ctx i r.param
  declined : ∀ m, Upheld rules ctx i list m → ∀ lead, (joint ctx list).head? = some lead →
    fixUnneeded ctx m = .ok (.manual ("inlined together with `" ++ lead.name ++ "`")) →
    ¬ Suppressed rules ctx i lead.param

/-- A hit of the rule is confirmed unless a directive excuses it. -/
theorem mem_confirmed_iff (hi : rules.rule? i = some noUnnecessaryTypeParameter) {m : Match ctx.tree}
    (hrule : m.rule = i) :
    m ∈ (confirmMatches rules ctx (findMatches rules ctx).found.toList).confirmed ↔
      m ∈ (findMatches rules ctx).found ∧
        (ctx.allowed m.span.start noUnnecessaryTypeParameter.name rules).isAllowed = false := by
  rw [← hrule] at hi
  rw [mem_confirmMatches_iff safe_noUnnecessaryTypeParameter hi, Array.mem_toList_iff]
  unfold Confirmation.judge
  cases (ctx.allowed m.span.start noUnnecessaryTypeParameter.name rules).isAllowed with
  | false => simp [noUnnecessaryTypeParameter]
  | true => simp

/-- Only the line on which a type parameter starts matters. -/
theorem suppressed_iff (hi : rules.rule? i = some noUnnecessaryTypeParameter)
    (hscopes : ctx.scopes = .ofTree ctx.tree) {list : Node ctx.tree} {r : Removable ctx.tree}
    (hr : r ∈ joint ctx list) :
    Suppressed rules ctx i r.param ↔
      (ctx.allowed r.param.span.start noUnnecessaryTypeParameter.name rules).isAllowed = true := by
  constructor
  · intro h
    obtain ⟨m, hm, hrule, hnode, hallowed⟩ := h
    rwa [span_of_mem_findMatches hi hm hrule, hnode] at hallowed
  · intro h
    obtain ⟨m, hm, hrule, hnode⟩ := exists_hit_of_mem_joint hi hscopes hr
    refine ⟨m, hm, hrule, hnode, ?_⟩
    rwa [span_of_mem_findMatches hi hm hrule, hnode]

/-- What can go and is not excused is upheld. -/
theorem exists_upheld (hi : rules.rule? i = some noUnnecessaryTypeParameter)
    (hscopes : ctx.scopes = .ofTree ctx.tree) {list : Node ctx.tree} {r : Removable ctx.tree}
    (hr : r ∈ joint ctx list) (h : ¬ Suppressed rules ctx i r.param) :
    ∃ m, Upheld rules ctx i list m ∧ m.node = r.param := by
  obtain ⟨m, hm, hrule, hnode⟩ := exists_hit_of_mem_joint hi hscopes hr
  refine ⟨m, ⟨(mem_confirmed_iff hi hrule).2 ⟨hm, ?_⟩, hrule, ?_⟩, hnode⟩
  · exact Bool.eq_false_iff.2 fun hallowed => h ⟨m, hm, hrule, hnode, hallowed⟩
  · rw [hnode]
    exact (mem_joint_iff.1 hr).1

/-- What is upheld is not excused. -/
theorem Upheld.not_suppressed (hi : rules.rule? i = some noUnnecessaryTypeParameter)
    (hscopes : ctx.scopes = .ofTree ctx.tree) {list : Node ctx.tree} {m : Match ctx.tree}
    (h : Upheld rules ctx i list m) {r : Removable ctx.tree} (hr : r ∈ joint ctx list)
    (hnode : m.node = r.param) : ¬ Suppressed rules ctx i r.param := by
  obtain ⟨hm, hallowed⟩ := (mem_confirmed_iff hi h.rule_eq).1 h.confirmed
  rw [span_of_mem_findMatches hi hm h.rule_eq, hnode] at hallowed
  rw [suppressed_iff hi hscopes hr, hallowed]
  exact Bool.false_ne_true

/-! ## The answers -/

/-- The list of an upheld hit is the one its node stands in. -/
theorem Upheld.parent_eq {list : Node ctx.tree} {m : Match ctx.tree} (h : Upheld rules ctx i list m) :
    m.node.parent = some list :=
  Node.mem_children_iff.1 (Node.mem_children_of_mem_typeParameters h.node_mem)

/-- What is declined in favour of another type parameter can go. -/
theorem mem_joint_of_declined {list : Node ctx.tree} {m : Match ctx.tree}
    (hmem : m.node ∈ list.typeParameters) {name : String}
    (h : fixUnneeded ctx m = .ok (.manual ("inlined together with `" ++ name ++ "`"))) :
    ∃ r ∈ joint ctx list, m.node = r.param := by
  cases hr : removable ctx m.node with
  | error reason =>
    -- the reasons why something cannot go are other texts
    rw [fixUnneeded_eq, hr] at h
    cases h
    have hfirst : ∀ text ∈ ["type parameter not indexed", "type parameter links two positions",
        "type parameter is also used in the body", "type parameter only fixes the return type",
        "type parameter is referenced by another type parameter"],
        text.toList.head? = some 't' := by decide
    have hreason := hfirst _ (removable_error_mem hr)
    rw [String.append_assoc, String.toList_append] at hreason
    cases hreason
  | ok r =>
    have hparam := param_eq_of_removable hr
    refine ⟨r, mem_joint_iff.2 ?_, hparam.symm⟩
    rw [hparam]
    exact ⟨hmem, hr⟩

section

variable (hi : rules.rule? i = some noUnnecessaryTypeParameter)
  (hscopes : ctx.scopes = .ofTree ctx.tree) {list : Node ctx.tree} {lead : Removable ctx.tree}

include hi hscopes

/-- When the first is excused the others point to it, and directives are respected only if there is
no other that is reported. -/
theorem respectsDirectives_iff_of_suppressed (hlead : (joint ctx list).head? = some lead)
    (h : Suppressed rules ctx i lead.param) :
    RespectsDirectives rules ctx i list ↔ ∀ r ∈ joint ctx list, Suppressed rules ctx i r.param := by
  constructor
  · intro hrespects r hr
    by_contra hnot
    obtain ⟨m, hm, hnode⟩ := exists_upheld hi hscopes hr hnot
    have hok := (mem_joint_iff.1 hr).2
    rw [← hnode] at hok
    have hother : lead.param ≠ m.node := by
      intro heq
      rw [← hnode, ← heq] at hnot
      exact hnot h
    have hfix := fixUnneeded_of_lead hok hm.parent_eq hlead
    rw [if_neg hother] at hfix
    exact hrespects.declined m hm lead hlead hfix h
  · intro hall
    refine ⟨fun m hm fix hfix => ?_, fun m hm lead' _ hfix => ?_⟩
    · obtain ⟨-, list', lead', hparent, -, hlead', hnode, -⟩ := of_fixUnneeded_proposed hscopes hfix
      rw [hm.parent_eq] at hparent
      cases hparent
      have hmem := List.mem_of_head? hlead'
      exact absurd (hall lead' hmem) (hm.not_suppressed hi hscopes hmem hnode.symm)
    · obtain ⟨r, hr, hnode⟩ := mem_joint_of_declined hm.node_mem hfix
      exact absurd (hall r hr) (hm.not_suppressed hi hscopes hr hnode)

/-- When the first is not excused its fix is asked for, and directives are respected only if no other
is excused or the fix cannot be put together. -/
theorem respectsDirectives_iff_of_not_suppressed (hlead : (joint ctx list).head? = some lead)
    (h : ¬ Suppressed rules ctx i lead.param) :
    RespectsDirectives rules ctx i list ↔
      (∀ r ∈ joint ctx list, ¬ Suppressed rules ctx i r.param) ∨
      ∃ reason, jointFix ctx.source list (joint ctx list) = .ok (.manual reason) := by
  constructor
  · intro hrespects
    have hmem := List.mem_of_head? hlead
    obtain ⟨m, hm, hnode⟩ := exists_upheld hi hscopes hmem h
    have hok := (mem_joint_iff.1 hmem).2
    rw [← hnode] at hok
    have hfix := fixUnneeded_of_lead hok hm.parent_eq hlead
    rw [if_pos hnode.symm] at hfix
    obtain ⟨outcome, hrun, -⟩ := sound_fixUnneeded ctx m
    rw [show fixUnneeded ctx m = .ok outcome from hrun] at hfix
    cases outcome with
    | proposed fix => exact Or.inl (hrespects.proposed m hm fix hrun)
    | manual reason => exact Or.inr ⟨reason, hfix.symm⟩
  · intro hcases
    refine ⟨fun m hm fix hfix => ?_, fun m hm lead' hlead' _ => ?_⟩
    · rcases hcases with hnone | ⟨reason, hmanual⟩
      · exact hnone
      · obtain ⟨-, list', -, hparent, -, -, -, hproposed⟩ := of_fixUnneeded_proposed hscopes hfix
        rw [hm.parent_eq] at hparent
        cases hparent
        rw [hmanual] at hproposed
        cases hproposed
    · rw [hlead] at hlead'
      cases hlead'
      exact h

end

/-- **When the joint fix respects directives**: for every list of type parameters in a file that is
analyzed with the rule, exactly when all that can go are excused, or none, or when the first is not
excused and its fix is not proposed because the edits overlap. Whether one is excused depends on the
line on which it starts. -/
theorem group_respects_directives_iff (hi : rules.rule? i = some noUnnecessaryTypeParameter)
    (hscopes : ctx.scopes = .ofTree ctx.tree) (list : Node ctx.tree) :
    (RespectsDirectives rules ctx i list ↔
      (∀ r ∈ joint ctx list, Suppressed rules ctx i r.param) ∨
      (∀ r ∈ joint ctx list, ¬ Suppressed rules ctx i r.param) ∨
      ∃ lead reason, (joint ctx list).head? = some lead ∧ ¬ Suppressed rules ctx i lead.param ∧
        jointFix ctx.source list (joint ctx list) = .ok (.manual reason)) ∧
    ∀ r ∈ joint ctx list, (Suppressed rules ctx i r.param ↔
      (ctx.allowed r.param.span.start noUnnecessaryTypeParameter.name rules).isAllowed = true) := by
  refine ⟨?_, fun r hr => suppressed_iff hi hscopes hr⟩
  cases hlead : (joint ctx list).head? with
  | none =>
    have hnil : joint ctx list = [] := List.head?_eq_none_iff.1 hlead
    refine iff_of_true ⟨fun m _ fix _ r hr => ?_, fun m _ lead hhead => ?_⟩ (Or.inl fun r hr => ?_)
    · rw [hnil] at hr
      cases hr
    · rw [hlead] at hhead
      cases hhead
    · rw [hnil] at hr
      cases hr
  | some lead =>
    have hmem := List.mem_of_head? hlead
    by_cases h : Suppressed rules ctx i lead.param
    · rw [respectsDirectives_iff_of_suppressed hi hscopes hlead h]
      refine ⟨Or.inl, ?_⟩
      rintro (hall | hnone | ⟨_, -, heq, hnot, -⟩)
      · exact hall
      · exact absurd h (hnone lead hmem)
      · cases heq
        exact absurd h hnot
    · rw [respectsDirectives_iff_of_not_suppressed hi hscopes hlead h]
      constructor
      · rintro (hnone | ⟨reason, hmanual⟩)
        · exact Or.inr (Or.inl hnone)
        · exact Or.inr (Or.inr ⟨lead, reason, rfl, h, hmanual⟩)
      · rintro (hall | hnone | ⟨_, reason, -, -, hmanual⟩)
        · exact absurd (hall lead hmem) h
        · exact Or.inl hnone
        · exact Or.inr ⟨reason, hmanual⟩

/-! ## A list on two lines

The text

    function f<A,
    B // typesmith: allow(TY012)
    >(a: A, b: B) {}

where the directive is about the second line. The fix for `A` deletes `B` with it. -/

def excusedEntries : Array Tree.Entry :=
  #[⟨none, "program", none, true, 0, 59⟩,
    ⟨some 0, "function_declaration", none, true, 0, 59⟩,
    ⟨some 1, "function", none, false, 0, 8⟩,
    ⟨some 1, "identifier", some "name", true, 9, 10⟩,
    ⟨some 1, "type_parameters", some "type_parameters", true, 10, 44⟩,
    ⟨some 4, "<", none, false, 10, 11⟩,
    ⟨some 4, "type_parameter", none, true, 11, 12⟩,
    ⟨some 6, "type_identifier", some "name", true, 11, 12⟩,
    ⟨some 4, ",", none, false, 12, 13⟩,
    ⟨some 4, "type_parameter", none, true, 14, 15⟩,
    ⟨some 9, "type_identifier", some "name", true, 14, 15⟩,
    ⟨some 4, "comment", none, true, 16, 42⟩,
    ⟨some 4, ">", none, false, 43, 44⟩,
    ⟨some 1, "formal_parameters", some "parameters", true, 44, 56⟩,
    ⟨some 13, "(", none, false, 44, 45⟩,
    ⟨some 13, "required_parameter", none, true, 45, 49⟩,
    ⟨some 15, "identifier", some "pattern", true, 45, 46⟩,
    ⟨some 15, "type_annotation", some "type", true, 46, 49⟩,
    ⟨some 17, ":", none, false, 46, 47⟩,
    ⟨some 17, "type_identifier", none, true, 48, 49⟩,
    ⟨some 13, ",", none, false, 49, 50⟩,
    ⟨some 13, "required_parameter", none, true, 51, 55⟩,
    ⟨some 21, "identifier", some "pattern", true, 51, 52⟩,
    ⟨some 21, "type_annotation", some "type", true, 52, 55⟩,
    ⟨some 23, ":", none, false, 52, 53⟩,
    ⟨some 23, "type_identifier", none, true, 54, 55⟩,
    ⟨some 13, ")", none, false, 55, 56⟩,
    ⟨some 1, "statement_block", some "body", true, 57, 59⟩,
    ⟨some 27, "\x7b", none, false, 57, 58⟩,
    ⟨some 27, "\x7d", none, false, 58, 59⟩]

def excusedTree : SyntaxTree where
  source := "function f<A,\nB // typesmith: allow(TY012)\n>(a: A, b: B) \x7b\x7d"
  entries := excusedEntries
  childIds := Tree.childLists excusedEntries
  coherent := Tree.firstError?_eq_none_iff.1 (by decide +kernel)
  nonempty := by decide
  childIds_eq := rfl

def excusedContext : FileContext := .make "a.ts" excusedTree none

def excusedRules : RuleSet := { version := "0", rules := [noUnnecessaryTypeParameter], renames := [] }

/-- The list of type parameters. -/
def excusedList : Node excusedTree := ⟨4, by decide⟩

/-- The type parameter on the first line. -/
def reportedA : Removable excusedTree := ⟨⟨6, by decide⟩, "A", some ⟨19, by decide⟩⟩

/-- The type parameter on the second line. -/
def excusedB : Removable excusedTree := ⟨⟨9, by decide⟩, "B", some ⟨25, by decide⟩⟩

/-- The fix for the first. -/
def excusedFix : Fix where
  description := "Inline type parameter `A`, `B`"
  confidence := .high
  edits := [⟨⟨10, 44⟩, "", "<A,\nB // typesmith: allow(TY012)\n>"⟩, ⟨⟨48, 49⟩, "unknown", "A"⟩,
    ⟨⟨54, 55⟩, "unknown", "B"⟩]
  fingerprint := 0

theorem joint_excused : joint excusedContext excusedList = [reportedA, excusedB] :=
  show joint (.make "a.ts" excusedTree none) excusedList =
    [⟨⟨6, by decide⟩, "A", some ⟨19, by decide⟩⟩, ⟨⟨9, by decide⟩, "B", some ⟨25, by decide⟩⟩] by
      decide +kernel

theorem jointFix_excused :
    jointFix excusedTree.source excusedList [reportedA, excusedB] = .ok (.proposed excusedFix) := by
  have hdeletions : removals excusedTree.source excusedList.span
      (excusedList.typeParameters.map (·.span))
      (excusedList.typeParameters.map fun p => [reportedA, excusedB].any (·.param == p)) =
      .ok [⟨⟨10, 44⟩, "", "<A,\nB // typesmith: allow(TY012)\n>"⟩] :=
    toOption_eq_some_iff.1 (by decide +kernel)
  have hedits : [⟨⟨10, 44⟩, "", "<A,\nB // typesmith: allow(TY012)\n>"⟩] ++
      inlinings excusedTree.source [reportedA, excusedB] = excusedFix.edits := by decide +kernel
  exact jointFix_of_sorted (by decide +kernel) hdeletions hedits (by decide) (by decide)

theorem group_respects_directives_iff_excused :
    (RespectsDirectives excusedRules excusedContext 0 excusedList ↔
      (∀ r ∈ joint excusedContext excusedList, Suppressed excusedRules excusedContext 0 r.param) ∨
      (∀ r ∈ joint excusedContext excusedList, ¬ Suppressed excusedRules excusedContext 0 r.param) ∨
      ∃ lead reason, (joint excusedContext excusedList).head? = some lead ∧
        ¬ Suppressed excusedRules excusedContext 0 lead.param ∧
        jointFix excusedContext.source excusedList (joint excusedContext excusedList) =
          .ok (.manual reason)) ∧
    ∀ r ∈ joint excusedContext excusedList, (Suppressed excusedRules excusedContext 0 r.param ↔
      (excusedContext.allowed r.param.span.start noUnnecessaryTypeParameter.name
        excusedRules).isAllowed = true) :=
  @group_respects_directives_iff excusedRules excusedContext 0 rfl rfl excusedList

/-- The type parameter on the second line is excused, and the fix for the first takes it out. -/
theorem directive_overridden :
    joint excusedContext excusedList = [reportedA, excusedB] ∧
    Suppressed excusedRules excusedContext 0 excusedB.param ∧
    (∃ m, Upheld excusedRules excusedContext 0 excusedList m ∧ m.node = reportedA.param ∧
      fixUnneeded excusedContext m = .ok (.proposed excusedFix)) ∧
    ¬ RespectsDirectives excusedRules excusedContext 0 excusedList := by
  have hi : excusedRules.rule? 0 = some noUnnecessaryTypeParameter := rfl
  have hscopes : excusedContext.scopes = .ofTree excusedContext.tree := rfl
  have hA : reportedA ∈ joint excusedContext excusedList := by
    rw [joint_excused]
    exact List.mem_cons_self
  have hB : excusedB ∈ joint excusedContext excusedList := by
    rw [joint_excused]
    exact List.mem_cons_of_mem _ List.mem_cons_self
  have hallowed : (excusedContext.allowed 11 noUnnecessaryTypeParameter.name excusedRules).isAllowed =
      false ∧ (excusedContext.allowed 14 noUnnecessaryTypeParameter.name excusedRules).isAllowed =
      true := by decide +kernel
  have hsuppressed : Suppressed excusedRules excusedContext 0 excusedB.param :=
    (suppressed_iff hi hscopes hB).2 hallowed.2
  have hreported : ¬ Suppressed excusedRules excusedContext 0 reportedA.param := by
    rw [suppressed_iff hi hscopes hA]
    exact Bool.eq_false_iff.1 hallowed.1
  obtain ⟨m, hm, hnode⟩ := exists_upheld hi hscopes hA hreported
  have hfix : fixUnneeded excusedContext m = .ok (.proposed excusedFix) :=
    (fixUnneeded_of_first hm.parent_eq joint_excused hnode.symm).trans jointFix_excused
  exact ⟨joint_excused, hsuppressed, ⟨m, hm, hnode, hfix⟩, fun hrespects =>
    hrespects.proposed m hm excusedFix hfix excusedB hB hsuppressed⟩

end TypeLint.Catalog
