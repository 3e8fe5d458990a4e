import TypeLint.Proofs.Catalog.Fixers
import TypeLint.Proofs.Catalog.TypeParameters

/-!
# Inlining type parameters

The type parameters of a list that can go, `joint`, go in one fix: `fixUnneeded_of_lead` says that the
first of them carries it, `jointFix`, and that the others point to the first.

When names go, what refers to them must go as well. The counts of the scope index speak for four parts
of the function: the parameters, the return type, the body, and the constraints and defaults of the
other type parameters (`countedParts`, `Removable.Within`). They do not see a reference elsewhere. So
the fix leaves no reference behind exactly when every one that is not seen goes with the type
parameters, and when the search for the one that is seen took the right node (`inlining_clean_iff`).
The constraint of the type parameter itself is not seen, and its text stays: it takes the place of the
reference.
-/

namespace TypeLint.Catalog

section

variable {ctx : FileContext}

/-! ## The group -/

/-- The type parameters of a list that can go. -/
def joint (ctx : FileContext) (list : Node ctx.tree) : List (Removable ctx.tree) :=
  list.typeParameters.filterMap fun p => (removable ctx p).toOption

/-- What takes the place of the references to a group. -/
def inlinings {t : SyntaxTree} (source : String) (group : List (Removable t)) : List Edit :=
  group.filterMap fun r => r.reference.map fun reference =>
    Edit.replace source reference.span (replacementFor r.param reference)

/-- The fix that takes a group out of its list. -/
def jointFix {t : SyntaxTree} (source : String) (list : Node t) (group : List (Removable t)) :
    Except Fault FixOutcome :=
  let removed := list.typeParameters.map fun p => group.any (·.param == p)
  let names := ", ".intercalate (group.map fun r => "`" ++ r.name ++ "`")
  (removals source list.span (list.typeParameters.map (·.span)) removed).map fun deletions =>
    .propose ("Inline type parameter " ++ names) (deletions ++ inlinings source group)

theorem mem_joint_iff {list : Node ctx.tree} {r : Removable ctx.tree} :
    r ∈ joint ctx list ↔ r.param ∈ list.typeParameters ∧ removable ctx r.param = .ok r := by
  rw [joint, List.mem_filterMap]
  constructor
  · intro h
    obtain ⟨p, hp, hr⟩ := h
    rw [toOption_eq_some_iff] at hr
    have hparam : r.param = p := param_eq_of_removable hr
    rw [hparam]
    exact ⟨hp, hr⟩
  · intro h
    exact ⟨r.param, h.1, toOption_eq_some_iff.2 h.2⟩

theorem fixUnneeded_eq (m : Match ctx.tree) :
    fixUnneeded ctx m =
      match removable ctx m.node with
      | .error reason => .ok (.manual reason)
      | .ok _ =>
        match m.node.parent with
        | none => .ok (.manual "type parameter list not found")
        | some list =>
          match (joint ctx list).head?.filter (·.param != m.node) with
          | some lead => .ok (.manual ("inlined together with `" ++ lead.name ++ "`"))
          | none => jointFix ctx.source list (joint ctx list) :=
  rfl

/-- The first of a group carries the fix, and the others point to it. -/
theorem fixUnneeded_of_lead {m : Match ctx.tree} {list : Node ctx.tree} {r lead : Removable ctx.tree}
    (hr : removable ctx m.node = .ok r) (hlist : m.node.parent = some list)
    (hlead : (joint ctx list).head? = some lead) :
    fixUnneeded ctx m =
      if lead.param = m.node then jointFix ctx.source list (joint ctx list)
      else .ok (.manual ("inlined together with `" ++ lead.name ++ "`")) := by
  rw [fixUnneeded_eq, hr]
  simp only [hlist, hlead, Option.filter_some, bne_iff_ne]
  by_cases heq : lead.param = m.node
  · rw [if_neg (not_not.2 heq), if_pos heq]
  · rw [if_pos heq, if_neg heq]

/-- For the first of a group the fixer answers with the joint fix. -/
theorem fixUnneeded_of_first {m : Match ctx.tree} {list : Node ctx.tree} {lead : Removable ctx.tree}
    {rest : List (Removable ctx.tree)} (hlist : m.node.parent = some list)
    (hgroup : joint ctx list = lead :: rest) (hlead : lead.param = m.node) :
    fixUnneeded ctx m = jointFix ctx.source list (lead :: rest) := by
  have hmem : lead ∈ joint ctx list := by
    rw [hgroup]
    exact List.mem_cons_self
  have hok := (mem_joint_iff.1 hmem).2
  rw [hlead] at hok
  rw [fixUnneeded_of_lead hok hlist (by rw [hgroup]; rfl), if_pos hlead, hgroup]

/-! ## The function of a group -/

/-- What the counts of the index say of a type parameter that can go: the return type, the body and the
other type parameters do not refer to it. If the parameters do they do so once, and what is replaced
is the first node there that spells its name. -/
structure Removable.Within {t : SyntaxTree} (owner list : Node t) (r : Removable t) : Prop where
  list_eq : owner.child? "type_parameters" = some list
  mem : r.param ∈ list.typeParameters
  returnType : owner.referencesUnder "return_type" r.name = []
  body : owner.referencesUnder "body" r.name = []
  others : ∀ p ∈ list.typeParameters, p ≠ r.param →
    p.referencesUnder "constraint" r.name = [] ∧ p.referencesUnder "value" r.name = []
  parameters :
    owner.referencesUnder "parameters" r.name = [] ∧ r.reference = none ∨
    ∃ counted selected, owner.referencesUnder "parameters" r.name = [counted] ∧
      (owner.child? "parameters").bind (findReference? · r.name) = some selected ∧
      r.reference = some selected

theorem Removable.Of.within {t : SyntaxTree} {list : Node t} {use : TypeParameterUse t}
    {r : Removable t} (huse : use.Of list) (hr : r.Of use) : r.Within use.owner list := by
  have hcount := huse.signatureRefs_eq
  rcases hr.reference_cases with h | h
  · obtain ⟨hzero, hreference⟩ := h
    obtain ⟨hreturn, hbody, hothers⟩ := huse.referencesUnder_eq_nil (by omega) hr.bodyRefs_eq
    have hparameters := Node.referencesUnder_eq_nil
      (show use.owner.countUnder "parameters" use.name = 0 by omega)
    rw [← hr.name_eq] at hreturn hbody hothers hparameters
    rw [← hr.param_eq] at hothers
    exact ⟨huse.list_eq, hr.param_eq ▸ huse.param_mem, hreturn, hbody, hothers,
      Or.inl ⟨hparameters, hreference⟩⟩
  · obtain ⟨hone, parameters, counted, selected, hchild, hcounted, hfind, hreference⟩ := h
    have hunder : use.owner.referencesUnder "parameters" use.name = [counted] := by
      rw [Node.referencesUnder_of_child? hchild, hcounted]
    have hlength : use.owner.countUnder "parameters" use.name = 1 := by
      rw [Node.countUnder_eq_length, hunder]
      rfl
    obtain ⟨hreturn, hbody, hothers⟩ := huse.referencesUnder_eq_nil (by omega) hr.bodyRefs_eq
    rw [← hr.name_eq] at hreturn hbody hothers hunder hfind
    rw [← hr.param_eq] at hothers
    refine ⟨huse.list_eq, hr.param_eq ▸ huse.param_mem, hreturn, hbody, hothers,
      Or.inr ⟨counted, selected, hunder, ?_, hreference⟩⟩
    rw [hchild]
    exact hfind

/-- What can go stands in the list of a function, together with what else can go from there. -/
theorem exists_list_of_removable (hscopes : ctx.scopes = .ofTree ctx.tree) {param : Node ctx.tree}
    {r : Removable ctx.tree} (hr : removable ctx param = .ok r) :
    ∃ owner list, param.parent = some list ∧ r ∈ joint ctx list ∧ r.Within owner list := by
  obtain ⟨use, huse, hof⟩ := of_removable hr
  rw [hscopes] at huse
  obtain ⟨rfl, list, hlist⟩ := ScopeIndex.of_use? huse
  refine ⟨use.owner, list, hlist.parent_param, mem_joint_iff.2 ?_, hof.within hlist⟩
  rw [hof.param_eq]
  exact ⟨hlist.param_mem, hr⟩

theorem within_of_mem_joint (hscopes : ctx.scopes = .ofTree ctx.tree) {owner list : Node ctx.tree}
    (hlist : list.parent = some owner) {r : Removable ctx.tree} (hr : r ∈ joint ctx list) :
    r.Within owner list := by
  obtain ⟨hparam, hok⟩ := mem_joint_iff.1 hr
  obtain ⟨owner', list', hparent, -, hwithin⟩ := exists_list_of_removable hscopes hok
  have hparent' := Node.mem_children_iff.1 (Node.mem_children_of_mem_typeParameters hparam)
  rw [hparent] at hparent'
  cases hparent'
  rw [Node.parent_of_child? hwithin.list_eq] at hlist
  cases hlist
  exact hwithin

/-- A fix that is proposed takes out the group of its list, on behalf of the first. -/
theorem of_fixUnneeded_proposed (hscopes : ctx.scopes = .ofTree ctx.tree) {m : Match ctx.tree}
    {fix : Fix} (h : fixUnneeded ctx m = .ok (.proposed fix)) :
    ∃ owner list lead, m.node.parent = some list ∧ list.parent = some owner ∧
      (joint ctx list).head? = some lead ∧ lead.param = m.node ∧
      jointFix ctx.source list (joint ctx list) = .ok (.proposed fix) := by
  cases hr : removable ctx m.node with
  | error reason =>
    rw [fixUnneeded_eq, hr] at h
    cases h
  | ok r =>
    obtain ⟨owner, list, hparent, hmem, hwithin⟩ := exists_list_of_removable hscopes hr
    obtain ⟨lead, hlead⟩ : ∃ lead, (joint ctx list).head? = some lead :=
      ⟨_, List.head?_eq_some_head (List.ne_nil_of_mem hmem)⟩
    rw [fixUnneeded_of_lead hr hparent hlead] at h
    split at h
    next heq =>
      exact ⟨owner, list, lead, hparent, Node.parent_of_child? hwithin.list_eq, hlead, heq, h⟩
    next => cases h

end

section

variable {t : SyntaxTree}

/-- The joint fix deletes the group from its list and replaces the references. -/
theorem edits_of_jointFix {source : String} {list : Node t} {group : List (Removable t)} {fix : Fix}
    (h : jointFix source list group = .ok (.proposed fix)) :
    ∃ deletions, removals source list.span (list.typeParameters.map (·.span))
        (list.typeParameters.map fun p => group.any (·.param == p)) = .ok deletions ∧
      fix.edits.Perm (deletions ++ inlinings source group) := by
  unfold jointFix at h
  simp only at h
  cases hdeletions : removals source list.span (list.typeParameters.map (·.span))
      (list.typeParameters.map fun p => group.any (·.param == p)) with
  | error fault =>
    rw [hdeletions] at h
    cases h
  | ok deletions =>
    rw [hdeletions] at h
    refine ⟨deletions, rfl, ?_⟩
    have hpropose := Except.ok.inj h
    unfold FixOutcome.propose Fix.make at hpropose
    simp only at hpropose
    split at hpropose
    next => cases hpropose
    next =>
      cases hpropose
      exact Edit.sorted_perm _

/-- Edits in order that do not overlap make the fix. -/
theorem jointFix_of_sorted {source description : String} {list : Node t} {group : List (Removable t)}
    {deletions edits : List Edit}
    (hnames : "Inline type parameter " ++ ", ".intercalate (group.map fun r => "`" ++ r.name ++ "`") =
      description)
    (hdeletions : removals source list.span (list.typeParameters.map (·.span))
      (list.typeParameters.map fun p => group.any (·.param == p)) = .ok deletions)
    (hedits : deletions ++ inlinings source group = edits)
    (hsorted : edits.Pairwise fun a b => a.span.before b.span = true)
    (hapart : Edit.firstOverlap? edits = none) :
    jointFix source list group = .ok (.proposed ⟨description, .high, edits, 0⟩) := by
  have hmerge : Edit.sorted edits = edits := List.mergeSort_of_pairwise hsorted
  unfold jointFix
  simp only
  rw [hdeletions, hnames]
  unfold Except.map FixOutcome.propose Fix.make
  simp only [hedits, hmerge, hapart]
  rfl

/-! ## References that are left behind -/

/-- The constraint of a type parameter, whose text takes the place of a reference. -/
def constraintOf? (param : Node t) : Option (Node t) :=
  (param.child? "constraint").bind (·.significantChildren.head?)

/-- The node is part of a text that takes the place of a reference to a member of the group. -/
def Inlined (group : List (Removable t)) (d : Node t) : Prop :=
  ∃ r ∈ group, r.reference.isSome = true ∧ ∃ constraint,
    constraintOf? r.param = some constraint ∧ constraint.AtOrAbove d

/-- The node is part of a type parameter that is deleted. -/
def Deleted (group : List (Removable t)) (d : Node t) : Prop := ∃ r ∈ group, r.param.AtOrAbove d

/-- No reference to a member of the group is left in its function: none is part of a text that is
inlined, and every other one is deleted or replaced. -/
structure Clean (owner : Node t) (group : List (Removable t)) : Prop where
  inlined : ∀ r ∈ group, ∀ d, owner.Mentions r.name d → ¬ Inlined group d
  replaced : ∀ r ∈ group, ∀ d, owner.Mentions r.name d → ¬ Deleted group d →
    ∃ q ∈ group, q.reference = some d

/-- The parts of a function whose references to a type parameter are counted. -/
def countedParts (owner list param : Node t) : List (Node t) :=
  ["parameters", "return_type", "body"].filterMap owner.child? ++
    (list.typeParameters.filter (· != param)).flatMap fun p =>
      ["constraint", "value"].filterMap p.child?

/-- The node lies in a part that is counted, and no bare token hides it there. -/
def Seen (owner list param d : Node t) : Prop :=
  ∃ part ∈ countedParts owner list param, part.AtOrAbove d ∧ ¬ part.BehindToken d

/-- Every reference to a member of the group is accounted for: one that the counts see is the one that
is replaced, and one that they do not see goes with the type parameters. -/
structure Accounted (owner list : Node t) (group : List (Removable t)) : Prop where
  seen : ∀ r ∈ group, ∀ d, owner.Mentions r.name d → Seen owner list r.param d → r.reference = some d
  unseen : ∀ r ∈ group, ∀ d, owner.Mentions r.name d → ¬ Seen owner list r.param d →
    Deleted group d ∧ ¬ Inlined group d

variable {owner list : Node t} {group : List (Removable t)}

theorem deleted_of_inlined {d : Node t} (h : Inlined group d) : Deleted group d := by
  obtain ⟨r, hr, -, constraint, hconstraint, hd⟩ := h
  obtain ⟨c, hc, hhead⟩ := Option.bind_eq_some_iff.1 hconstraint
  have hmem := List.mem_of_head? hhead
  rw [Node.significantChildren, List.mem_filter, Node.namedChildren, List.mem_filter] at hmem
  refine ⟨r, hr, .trans ?_ hd⟩
  exact (Node.AtOrAbove.of_mem_children (Node.mem_children_of_child? hc)).trans
    (.of_mem_children hmem.1.1)

/-- The only references that are seen are among the parameters. -/
theorem Removable.Within.seen_iff {r : Removable t} (hr : r.Within owner list) {d : Node t}
    (hd : owner.Mentions r.name d) :
    Seen owner list r.param d ↔ d ∈ owner.referencesUnder "parameters" r.name := by
  -- a part below the owner has the reference, unless a token hides it there
  have hpart : ∀ {n part : Node t} {field : String}, owner.AtOrAbove n → n.child? field = some part →
      part.AtOrAbove d → ¬ part.BehindToken d → d ∈ n.referencesUnder field r.name := by
    intro n part field hn hchild hbelow htoken
    have hroot := hn.trans (.of_mem_children (Node.mem_children_of_child? hchild))
    rw [Node.referencesUnder_of_child? hchild]
    exact Node.mem_references_iff.2 ⟨hd.narrow hroot hbelow, htoken⟩
  constructor
  · intro h
    obtain ⟨part, hmem, hbelow, htoken⟩ := h
    rcases List.mem_append.1 hmem with hmem | hmem
    · obtain ⟨field, hfield, hchild⟩ := List.mem_filterMap.1 hmem
      have hreference := hpart (.refl owner) hchild hbelow htoken
      simp only [List.mem_cons, List.not_mem_nil, or_false] at hfield
      rcases hfield with rfl | rfl | rfl
      · exact hreference
      · rw [hr.returnType] at hreference
        cases hreference
      · rw [hr.body] at hreference
        cases hreference
    · obtain ⟨p, hp, hmem⟩ := List.mem_flatMap.1 hmem
      obtain ⟨hp, hne⟩ := List.mem_filter.1 hp
      obtain ⟨field, hfield, hchild⟩ := List.mem_filterMap.1 hmem
      have hlist := Node.AtOrAbove.of_mem_children (Node.mem_children_of_child? hr.list_eq)
      have habove := hlist.trans (.of_mem_children (Node.mem_children_of_mem_typeParameters hp))
      have hreference := hpart habove hchild hbelow htoken
      obtain ⟨hconstraint, hvalue⟩ := hr.others p hp (bne_iff_ne.1 hne)
      simp only [List.mem_cons, List.not_mem_nil, or_false] at hfield
      rcases hfield with rfl | rfl
      · rw [hconstraint] at hreference
        cases hreference
      · rw [hvalue] at hreference
        cases hreference
  · intro h
    cases hchild : owner.child? "parameters" with
    | none =>
      rw [Node.referencesUnder, hchild] at h
      cases h
    | some parameters =>
      rw [Node.referencesUnder_of_child? hchild] at h
      obtain ⟨hmentions, htoken⟩ := Node.mem_references_iff.1 h
      refine ⟨parameters, List.mem_append_left _ (List.mem_filterMap.2 ⟨_, ?_, hchild⟩),
        hmentions.below, htoken⟩
      exact List.mem_cons_self

/-- What is seen among the parameters is not part of the list of type parameters. -/
theorem not_deleted_of_mem (hgroup : ∀ r ∈ group, r.Within owner list) {name : String} {d : Node t}
    (hd : d ∈ owner.referencesUnder "parameters" name) : ¬ Deleted group d := by
  rintro ⟨r, hr, hparam⟩
  have hwithin := hgroup r hr
  cases hchild : owner.child? "parameters" with
  | none =>
    rw [Node.referencesUnder, hchild] at hd
    cases hd
  | some parameters =>
    rw [Node.referencesUnder_of_child? hchild] at hd
    have hbelow := (Node.mem_references_iff.1 hd).1.below
    have hmem := Node.mem_children_of_mem_typeParameters hwithin.mem
    have hlist : list.AtOrAbove d := (Node.AtOrAbove.of_mem_children hmem).trans hparam
    have heq := Node.eq_of_atOrAbove (Node.mem_children_of_child? hchild)
      (Node.mem_children_of_child? hwithin.list_eq) hbelow hlist
    exact Node.ne_of_child?_ne hchild hwithin.list_eq (by decide) heq

/-- The reference to a name is looked for in one way. -/
theorem Removable.Within.reference_eq {q r : Removable t} (hq : q.Within owner list)
    (hr : r.Within owner list) (hname : q.name = r.name) : q.reference = r.reference := by
  rcases hq.parameters with ⟨hnil, hnone⟩ | ⟨counted, selected, hone, hfind, hsome⟩
  · rcases hr.parameters with ⟨-, hnone'⟩ | ⟨counted', -, hone', -, -⟩
    · rw [hnone, hnone']
    · rw [hname, hone'] at hnil
      cases hnil
  · rcases hr.parameters with ⟨hnil', -⟩ | ⟨-, selected', -, hfind', hsome'⟩
    · rw [hname, hnil'] at hone
      cases hone
    · rw [hname, hfind'] at hfind
      rw [hsome, hsome', hfind]

/-- What is replaced spells the name among the parameters, where one reference to it is counted. -/
theorem Removable.Within.of_reference {r : Removable t} (hr : r.Within owner list) {d : Node t}
    (hd : r.reference = some d) :
    ∃ parameters counted, owner.child? "parameters" = some parameters ∧
      parameters.references r.name = [counted] ∧ parameters.AtOrAbove d ∧
      d.refersTo r.name = true := by
  rcases hr.parameters with ⟨-, hnone⟩ | ⟨counted, selected, hone, hfind, hsome⟩
  · rw [hnone] at hd
    cases hd
  · rw [hsome] at hd
    cases hd
    obtain ⟨parameters, hchild, hfind⟩ := Option.bind_eq_some_iff.1 hfind
    rw [Node.referencesUnder_of_child? hchild] at hone
    exact ⟨parameters, counted, hchild, hone,
      Node.mem_descendants_iff.1 (List.mem_of_find?_eq_some hfind),
      (findReference?_eq_some_iff.1 hfind).1⟩

theorem clean_iff_accounted (hgroup : ∀ r ∈ group, r.Within owner list) :
    Clean owner group ↔ Accounted owner list group := by
  constructor
  · intro h
    -- a reference that is replaced for another member is the one of this member too
    have hreplaced : ∀ r ∈ group, ∀ d, owner.Mentions r.name d → ¬ Deleted group d →
        r.reference = some d := by
      intro r hr d hmentions hkept
      obtain ⟨q, hq, hreference⟩ := h.replaced r hr d hmentions hkept
      obtain ⟨-, -, -, -, -, hrefers⟩ := (hgroup q hq).of_reference hreference
      have hname : q.name = r.name := by
        rw [← Node.text_eq_of_refersTo hrefers, Node.text_eq_of_refersTo hmentions.refers]
      rw [← (hgroup q hq).reference_eq (hgroup r hr) hname, hreference]
    refine ⟨fun r hr d hmentions hseen => ?_, fun r hr d hmentions hunseen => ?_⟩
    · rw [(hgroup r hr).seen_iff hmentions] at hseen
      exact hreplaced r hr d hmentions (not_deleted_of_mem hgroup hseen)
    · rw [(hgroup r hr).seen_iff hmentions] at hunseen
      refine ⟨?_, h.inlined r hr d hmentions⟩
      by_contra hkept
      -- otherwise it is the one that is replaced, and so is the one that is counted
      have hreference := hreplaced r hr d hmentions hkept
      obtain ⟨parameters, counted, hchild, hone, hbelow, -⟩ := (hgroup r hr).of_reference hreference
      have hparameters := Node.mem_children_of_child? hchild
      have hcounted : counted ∈ owner.referencesUnder "parameters" r.name := by
        rw [Node.referencesUnder_of_child? hchild, hone]
        exact List.mem_singleton_self _
      have hmentions' : owner.Mentions r.name counted :=
        (Node.mem_references_iff.1 (hone ▸ List.mem_singleton_self counted)).1.of_mem_children
          hparameters (hmentions.shadows_of_mem_children hparameters hbelow)
      have hreference' := hreplaced r hr counted hmentions' (not_deleted_of_mem hgroup hcounted)
      rw [hreference] at hreference'
      cases hreference'
      exact hunseen hcounted
  · intro h
    refine ⟨fun r hr d hmentions hinlined => ?_, fun r hr d hmentions hkept => ?_⟩
    · by_cases hseen : Seen owner list r.param d
      · rw [(hgroup r hr).seen_iff hmentions] at hseen
        exact not_deleted_of_mem hgroup hseen (deleted_of_inlined hinlined)
      · exact (h.unseen r hr d hmentions hseen).2 hinlined
    · by_cases hseen : Seen owner list r.param d
      · exact ⟨r, hr, h.seen r hr d hmentions hseen⟩
      · exact absurd (h.unseen r hr d hmentions hseen).1 hkept

end

/-- **When inlining leaves nothing behind**: a fix that is proposed takes all that can go out of the
list of one function. Of the references to what goes, the counts vouch for those in the return type,
the body and the other type parameters, where there is none, and for the one that the parameters may
have (`Removable.Within`). No reference is left behind if and only if that one is the one that is
replaced, and every reference that the counts do not see is deleted with a type parameter and not
carried over by a constraint. -/
theorem inlining_clean_iff {ctx : FileContext} (hscopes : ctx.scopes = .ofTree ctx.tree)
    {m : Match ctx.tree} {fix : Fix} (h : fixUnneeded ctx m = .ok (.proposed fix)) :
    ∃ owner list, m.node.parent = some list ∧ list.parent = some owner ∧
      (∃ deletions, removals ctx.source list.span (list.typeParameters.map (·.span))
          (list.typeParameters.map fun p => (joint ctx list).any (·.param == p)) = .ok deletions ∧
        fix.edits.Perm (deletions ++ inlinings ctx.source (joint ctx list))) ∧
      (∀ r ∈ joint ctx list, r.Within owner list) ∧
      (Clean owner (joint ctx list) ↔ Accounted owner list (joint ctx list)) := by
  obtain ⟨owner, list, -, hparent, hlist, -, -, hfix⟩ := of_fixUnneeded_proposed hscopes h
  have hgroup : ∀ r ∈ joint ctx list, r.Within owner list := fun r hr =>
    within_of_mem_joint hscopes hlist hr
  exact ⟨owner, list, hparent, hlist, edits_of_jointFix hfix, hgroup, clean_iff_accounted hgroup⟩

/-! ## A constraint that refers to its own type parameter

The text `function f<T extends T[]>(x: T) {}`. The counts do not see the `T` of the constraint,
and the text `T[]` takes the place of the type of `x`. -/

def selfBoundEntries : Array Tree.Entry :=
  #[⟨none, "program", none, true, 0, 34⟩,
    ⟨some 0, "function_declaration", none, true, 0, 34⟩,
    ⟨some 1, "function", none, false, 0, 8⟩,
    ⟨some 1, "identifier", some "name", true, 9, 10⟩,
    ⟨some 1, "type_parameters", some "type_parameters", true, 10, 25⟩,
    ⟨some 4, "<", none, false, 10, 11⟩,
    ⟨some 4, "type_parameter", none, true, 11, 24⟩,
    ⟨some 6, "type_identifier", some "name", true, 11, 12⟩,
    ⟨some 6, "constraint", some "constraint", true, 13, 24⟩,
    ⟨some 8, "extends", none, false, 13, 20⟩,
    ⟨some 8, "array_type", none, true, 21, 24⟩,
    ⟨some 10, "type_identifier", none, true, 21, 22⟩,
    ⟨some 10, "[", none, false, 22, 23⟩,
    ⟨some 10, "]", none, false, 23, 24⟩,
    ⟨some 4, ">", none, false, 24, 25⟩,
    ⟨some 1, "formal_parameters", some "parameters", true, 25, 31⟩,
    ⟨some 15, "(", none, false, 25, 26⟩,
    ⟨some 15, "required_parameter", none, true, 26, 30⟩,
    ⟨some 17, "identifier", some "pattern", true, 26, 27⟩,
    ⟨some 17, "type_annotation", some "type", true, 27, 30⟩,
    ⟨some 19, ":", none, false, 27, 28⟩,
    ⟨some 19, "type_identifier", none, true, 29, 30⟩,
    ⟨some 15, ")", none, false, 30, 31⟩,
    ⟨some 1, "statement_block", some "body", true, 32, 34⟩,
    ⟨some 23, "\x7b", none, false, 32, 33⟩,
    ⟨some 23, "\x7d", none, false, 33, 34⟩]

def selfBoundTree : SyntaxTree where
  source := "function f<T extends T[]>(x: T) \x7b\x7d"
  entries := selfBoundEntries
  childIds := Tree.childLists selfBoundEntries
  coherent := Tree.firstError?_eq_none_iff.1 (by decide +kernel)
  nonempty := by decide
  childIds_eq := rfl

def selfBoundContext : FileContext := .make "a.ts" selfBoundTree none

/-- The function. -/
def selfBoundOwner : Node selfBoundTree := ⟨1, by decide⟩

/-- The list of type parameters. -/
def selfBoundList : Node selfBoundTree := ⟨4, by decide⟩

/-- The type parameter. -/
def selfBoundT : Node selfBoundTree := ⟨6, by decide⟩

/-- The type `T[]` in the constraint. -/
def selfBoundArray : Node selfBoundTree := ⟨10, by decide⟩

/-- The name `T` in the constraint. -/
def selfBoundName : Node selfBoundTree := ⟨11, by decide⟩

/-- The type of `x`. -/
def selfBoundTypeOfX : Node selfBoundTree := ⟨21, by decide⟩

/-- What goes. -/
def selfBoundRemovable : Removable selfBoundTree := ⟨selfBoundT, "T", some selfBoundTypeOfX⟩

/-- The hit on the type parameter. -/
def selfBoundHit : Match selfBoundTree where
  rule := 0
  ruleName := "no-unnecessary-type-parameter"
  node := selfBoundT
  span := selfBoundT.span
  captures := (Captures.empty.bindNode "name" ⟨7, by decide⟩).bindText "uses" "once"

/-- The fix that is proposed for it. -/
def selfBoundFix : Fix where
  description := "Inline type parameter `T`"
  confidence := .high
  edits := [⟨⟨10, 25⟩, "", "<T extends T[]>"⟩, ⟨⟨29, 30⟩, "T[]", "T"⟩]
  fingerprint := 0

theorem joint_selfBound : joint selfBoundContext selfBoundList = [selfBoundRemovable] :=
  show joint (.make "a.ts" selfBoundTree none) selfBoundList =
    [⟨selfBoundT, "T", some selfBoundTypeOfX⟩] by decide +kernel

theorem fixUnneeded_selfBound :
    fixUnneeded selfBoundContext selfBoundHit = .ok (.proposed selfBoundFix) := by
  have hparent : selfBoundHit.node.parent = some selfBoundList := by decide +kernel
  have hdeletions : removals selfBoundTree.source selfBoundList.span
      (selfBoundList.typeParameters.map (·.span))
      (selfBoundList.typeParameters.map fun p => [selfBoundRemovable].any (·.param == p)) =
      .ok [⟨⟨10, 25⟩, "", "<T extends T[]>"⟩] := toOption_eq_some_iff.1 (by decide +kernel)
  have hedits : [⟨⟨10, 25⟩, "", "<T extends T[]>"⟩] ++
      inlinings selfBoundTree.source [selfBoundRemovable] = selfBoundFix.edits := by decide +kernel
  have hfix : jointFix selfBoundTree.source selfBoundList [selfBoundRemovable] =
      .ok (.proposed selfBoundFix) :=
    jointFix_of_sorted (by decide +kernel) hdeletions hedits (by decide) (by decide)
  have hfirst := @fixUnneeded_of_first selfBoundContext selfBoundHit selfBoundList selfBoundRemovable
    [] hparent joint_selfBound rfl
  exact hfirst.trans hfix

/-- A reference to the type parameter is carried over by its own constraint, into a text that declares
it no more. -/
theorem constraint_leaves_reference :
    fixUnneeded selfBoundContext selfBoundHit = .ok (.proposed selfBoundFix) ∧
    joint selfBoundContext selfBoundList = [selfBoundRemovable] ∧
    constraintOf? selfBoundT = some selfBoundArray ∧
    selfBoundOwner.Mentions "T" selfBoundName ∧ selfBoundArray.AtOrAbove selfBoundName ∧
    ¬ Clean selfBoundOwner (joint selfBoundContext selfBoundList) := by
  have hconstraint : constraintOf? selfBoundT = some selfBoundArray := by decide +kernel
  have hmem : selfBoundName ∈ selfBoundOwner.references "T" := by decide +kernel
  have hmentions := (Node.mem_references_iff.1 hmem).1
  have hbelow : selfBoundArray.AtOrAbove selfBoundName := Or.inr (by decide +kernel)
  refine ⟨fixUnneeded_selfBound, joint_selfBound, hconstraint, hmentions, hbelow, fun hclean => ?_⟩
  rw [joint_selfBound] at hclean
  exact hclean.inlined _ List.mem_cons_self _ hmentions
    ⟨_, List.mem_cons_self, rfl, _, hconstraint, hbelow⟩

theorem inlining_clean_iff_selfBound :
    ∃ owner list, selfBoundT.parent = some list ∧ list.parent = some owner ∧
      (∃ deletions, removals selfBoundContext.source list.span (list.typeParameters.map (·.span))
          (list.typeParameters.map fun p => (joint selfBoundContext list).any (·.param == p)) =
            .ok deletions ∧
        selfBoundFix.edits.Perm
          (deletions ++ inlinings selfBoundContext.source (joint selfBoundContext list))) ∧
      (∀ r ∈ joint selfBoundContext list, r.Within owner list) ∧
      (Clean owner (joint selfBoundContext list) ↔
        Accounted owner list (joint selfBoundContext list)) :=
  inlining_clean_iff rfl fixUnneeded_selfBound

end TypeLint.Catalog
