import TypeLint.Catalog.Declarations
import TypeLint.Proofs.Scope.Declarations

/-!
# Names that are declared again

Interfaces and type aliases of one name in one scope are a group, `SyntaxTree.typeGroup`, in document
order. A group is told from the tree alone. The rule looks at the scope index instead, where other
declarations of the same name stand among them; what it makes of the index is the group
(`map_node_typeSiblings`), whatever those others are. So it fires on every member of a group but the
first (`findMerging_of_declares`), and what it answers when it is asked for confirmation is a question
about the scope, which all members share (`confirmMerging_of_declares`).
-/

namespace TypeLint

variable {t : SyntaxTree}

/-! ## Groups -/

/-- The node is an interface or a type alias of this name, and the scope is the nearest above it. -/
structure Node.DeclaresType (n scope : Node t) (name : String) : Prop where
  kind : n.kind = "interface_declaration" ∨ n.kind = "type_alias_declaration"
  name_eq : (n.child? "name").map (·.text) = some name
  scope_nearest : Node.Nearest (·.isOneOf ["program", "statement_block"]) n scope

instance {n scope : Node t} {name : String} : Decidable (n.DeclaresType scope name) :=
  decidable_of_iff
    ((n.kind = "interface_declaration" ∨ n.kind = "type_alias_declaration") ∧
      (n.child? "name").map (·.text) = some name ∧
      Node.Nearest (·.isOneOf ["program", "statement_block"]) n scope)
    ⟨fun h => ⟨h.1, h.2.1, h.2.2⟩, fun h => ⟨h.kind, h.name_eq, h.scope_nearest⟩⟩

/-- The interfaces and type aliases of a name in a scope, in document order. -/
def SyntaxTree.typeGroup (t : SyntaxTree) (scope : Node t) (name : String) : List (Node t) :=
  t.preorder.filter fun n => n.DeclaresType scope name

namespace SyntaxTree

theorem mem_typeGroup_iff {n scope : Node t} {name : String} :
    n ∈ t.typeGroup scope name ↔ n.DeclaresType scope name := by
  rw [typeGroup, List.mem_filter, decide_eq_true_eq]
  exact and_iff_right (mem_preorder n)

theorem nodup_typeGroup (scope : Node t) (name : String) : (t.typeGroup scope name).Nodup :=
  (Node.nodup_descendants t.root).filter _

/-- The members of a group that are not the first. -/
theorem mem_tail_typeGroup_iff {n scope : Node t} {name : String} :
    n ∈ (t.typeGroup scope name).tail ↔
      n.DeclaresType scope name ∧ (t.typeGroup scope name).head? ≠ some n := by
  have hnodup := t.nodup_typeGroup scope name
  rw [← mem_typeGroup_iff]
  cases hgroup : t.typeGroup scope name with
  | nil => simp
  | cons first rest =>
    rw [hgroup, List.nodup_cons] at hnodup
    rw [List.tail_cons, List.mem_cons, List.head?_cons, ne_eq, Option.some.injEq]
    constructor
    · intro h
      refine ⟨Or.inr h, ?_⟩
      rintro rfl
      exact hnodup.1 h
    · rintro ⟨rfl | h, hne⟩
      · exact absurd rfl hne
      · exact h

end SyntaxTree

/-- Interfaces and type aliases are what two kinds of node declare. -/
theorem DeclarationKind.isType_iff {kind : String} :
    (∃ k, ofNodeKind? kind = some k ∧ k.isType = true) ↔
      kind = "interface_declaration" ∨ kind = "type_alias_declaration" := by
  unfold ofNodeKind?
  split <;> simp_all [isType]

/-- To belong to a group is to make such a declaration. -/
theorem Node.declaresType_iff {n scope : Node t} {name : String} :
    n.DeclaresType scope name ↔
      ∃ d, n.declaration? = some d ∧ d.kind.isType = true ∧ d.scope = scope ∧ d.name = name := by
  constructor
  · intro h
    obtain ⟨kind, hkind, htype⟩ := DeclarationKind.isType_iff.2 h.kind
    obtain ⟨nameNode, hname, rfl⟩ := Option.map_eq_some_iff.1 h.name_eq
    obtain ⟨d, hd, rfl, hdname, hscope⟩ := exists_declaration? hkind hname h.scope_nearest
    exact ⟨d, hd, htype, hscope, hdname⟩
  · rintro ⟨d, hd, htype, rfl, rfl⟩
    have hof := of_declaration? hd
    exact ⟨DeclarationKind.isType_iff.1 ⟨d.kind, hof.kind_eq, htype⟩, hof.name_eq, hof.scope_nearest⟩

/-! ## What the index has of them -/

/-- The index has the interfaces and type aliases of the tree in document order. Of the other
declarations it may have any, anywhere. -/
structure ScopeIndex.ListsTypes (index : ScopeIndex t) : Prop where
  declared : ∀ d ∈ index.declarations, d.node.declaration? = some d
  types : index.declarations.filter (·.kind.isType) =
    (ScopeIndex.ofTree t).declarations.filter (·.kind.isType)

theorem ScopeIndex.listsTypes_ofTree (t : SyntaxTree) : (ScopeIndex.ofTree t).ListsTypes :=
  ⟨fun _ hd => ScopeIndex.mem_declarations_iff.1 hd, rfl⟩

namespace ScopeIndex.ListsTypes

variable {index : ScopeIndex t} (h : index.ListsTypes)

include h

/-- An interface or a type alias is found at its node, and nothing is found that the node does not
declare. -/
theorem declaration?_iff {n : Node t} {d : Declaration t} (htype : d.kind.isType = true) :
    index.declaration? n = some d ↔ n.declaration? = some d := by
  have hfound : ∀ {e}, index.declaration? n = some e → n.declaration? = some e := by
    intro e he
    have hfits := List.find?_some he
    have hnode : e.node = n := beq_iff_eq.1 hfits
    have hdeclared := h.declared e (List.mem_of_find?_eq_some he)
    rwa [hnode] at hdeclared
  refine ⟨hfound, fun hd => ?_⟩
  have hnode : d.node = n := (Node.of_declaration? hd).node_eq
  have hmem : d ∈ index.declarations.filter (·.kind.isType) := by
    rw [h.types, List.mem_filter, mem_declarations_iff, hnode]
    exact ⟨hd, htype⟩
  have hsome : (index.declarations.find? (·.node == n)).isSome = true :=
    List.find?_isSome.2 ⟨d, (List.mem_filter.1 hmem).1, beq_iff_eq.2 hnode⟩
  obtain ⟨e, he⟩ := Option.isSome_iff_exists.1 hsome
  have hed : some e = some d := (hfound he).symm.trans hd
  rw [← hed]
  exact he

/-- The interfaces and type aliases that the index has of a name in a scope are the group. -/
theorem map_node_filter (scope : Node t) (name : String) :
    ((index.declarationsOf scope name).filter (·.kind.isType)).map (·.node) =
      t.typeGroup scope name := by
  have htree : (index.declarationsOf scope name).filter (·.kind.isType) =
      (t.preorder.filterMap (·.declaration?)).filter fun d =>
        (d.scope == scope && d.name == name) && d.kind.isType := by
    rw [ScopeIndex.declarationsOf, List.filter_comm, h.types, List.filter_filter]
    rfl
  rw [htree, List.filter_filterMap, List.map_filterMap, SyntaxTree.typeGroup,
    ← List.filterMap_eq_filter]
  refine List.filterMap_congr fun n _ => ?_
  cases hd : n.declaration? with
  | none =>
    have hnot : ¬ n.DeclaresType scope name := by
      rw [Node.declaresType_iff, hd]
      simp
    simp [Option.guard, hnot]
  | some d =>
    have hnode : d.node = n := (Node.of_declaration? hd).node_eq
    have htest : (d.scope == scope && d.name == name && d.kind.isType) =
        decide (n.DeclaresType scope name) := by
      rw [Bool.eq_iff_iff, decide_eq_true_eq, Node.declaresType_iff, hd]
      simp only [Bool.and_eq_true, beq_iff_eq, Option.some.injEq, exists_eq_left']
      exact and_comm
    rw [Option.filter_some, htest, Option.guard]
    by_cases hdeclares : n.DeclaresType scope name
    · simp [hdeclares, hnode]
    · simp [hdeclares]

end ScopeIndex.ListsTypes

/-- The context with another index in place of its own. -/
def FileContext.reindexed (ctx : FileContext) (index : ScopeIndex ctx.tree) : FileContext :=
  { ctx with scopes := index }

namespace Catalog

variable {ctx : FileContext}

section

variable (h : ctx.scopes.ListsTypes)

include h

theorem typeSiblings_of_declares {n scope : Node ctx.tree} {name : String}
    (hn : n.DeclaresType scope name) :
    typeSiblings ctx n = (ctx.scopes.declarationsOf scope name).filter (·.kind.isType) := by
  obtain ⟨d, hd, htype, rfl, rfl⟩ := Node.declaresType_iff.1 hn
  have hindex := (h.declaration?_iff htype).2 hd
  rw [typeSiblings, ScopeIndex.siblings, hindex]

/-- What the rule takes from the index for a member of a group is the group. -/
theorem map_node_typeSiblings {n scope : Node ctx.tree} {name : String}
    (hn : n.DeclaresType scope name) :
    (typeSiblings ctx n).map (·.node) = ctx.tree.typeGroup scope name := by
  rw [typeSiblings_of_declares h hn]
  exact h.map_node_filter scope name

/-! ## Where the rule fires -/

/-- On a member of a group the rule fires unless it is the first. -/
theorem findMerging_of_declares {n scope nameNode : Node ctx.tree} {name : String}
    (hn : n.DeclaresType scope name) (hname : n.child? "name" = some nameNode) :
    findMerging ctx n =
      if (ctx.tree.typeGroup scope name).head? = some n then none
      else some ((Captures.empty.bindNode "name" nameNode).bindNode "span" nameNode) := by
  obtain ⟨d, hd, htype, -, -⟩ := Node.declaresType_iff.1 hn
  have hindex := (h.declaration?_iff htype).2 hd
  have hgroup := map_node_typeSiblings h hn
  have hmem : n ∈ ctx.tree.typeGroup scope name := SyntaxTree.mem_typeGroup_iff.2 hn
  rw [← hgroup] at hmem ⊢
  unfold findMerging
  cases hs : typeSiblings ctx n with
  | nil =>
    rw [hs] at hmem
    cases hmem
  | cons first rest =>
    rw [hs, List.map_cons] at hmem
    by_cases hfirst : first.node = n
    · simp [hindex, hfirst]
    · -- a group with a member besides the first has at least two
      have hrest : n ∈ rest.map (·.node) := (List.mem_cons.1 hmem).resolve_left (Ne.symm hfirst)
      have hpos : 0 < rest.length := by
        have hlen := List.length_pos_of_mem hrest
        rwa [List.length_map] at hlen
      have htwo : ¬ rest.length + 1 < 2 := by omega
      simp [hindex, htype, hfirst, htwo, hname]

/-- Off the groups it does not fire. -/
theorem exists_declares_of_findMerging {n : Node ctx.tree} {captures : Captures ctx.tree}
    (hfound : findMerging ctx n = some captures) : ∃ scope name, n.DeclaresType scope name := by
  obtain ⟨d, hd, hrest⟩ := Option.bind_eq_some_iff.1 hfound
  by_cases htype : d.kind.isType = true
  · exact ⟨d.scope, d.name,
      Node.declaresType_iff.2 ⟨d, (h.declaration?_iff htype).1 hd, htype, rfl, rfl⟩⟩
  · simp [htype] at hrest

/-- It fires on the members of groups that are not the first, with their names. -/
theorem findMerging_eq_some_iff {n : Node ctx.tree} {captures : Captures ctx.tree} :
    findMerging ctx n = some captures ↔
      ∃ scope name nameNode, n ∈ (ctx.tree.typeGroup scope name).tail ∧
        n.child? "name" = some nameNode ∧
        captures = (Captures.empty.bindNode "name" nameNode).bindNode "span" nameNode := by
  constructor
  · intro hfound
    obtain ⟨scope, name, hn⟩ := exists_declares_of_findMerging h hfound
    obtain ⟨nameNode, hname, -⟩ := Option.map_eq_some_iff.1 hn.name_eq
    rw [findMerging_of_declares h hn hname] at hfound
    by_cases hfirst : (ctx.tree.typeGroup scope name).head? = some n
    · rw [if_pos hfirst] at hfound
      cases hfound
    · rw [if_neg hfirst, Option.some.injEq] at hfound
      exact ⟨scope, name, nameNode, SyntaxTree.mem_tail_typeGroup_iff.2 ⟨hn, hfirst⟩, hname,
        hfound.symm⟩
  · rintro ⟨scope, name, nameNode, hmem, hname, rfl⟩
    obtain ⟨hn, hfirst⟩ := SyntaxTree.mem_tail_typeGroup_iff.1 hmem
    rw [findMerging_of_declares h hn hname, if_neg hfirst]

/-- Of a group it fires on the tail. -/
theorem filter_findMerging (scope : Node ctx.tree) (name : String) :
    ((ctx.tree.typeGroup scope name).filter fun n => (findMerging ctx n).isSome) =
      (ctx.tree.typeGroup scope name).tail := by
  have hfires : ∀ n ∈ ctx.tree.typeGroup scope name, (findMerging ctx n).isSome =
      decide ((ctx.tree.typeGroup scope name).head? ≠ some n) := by
    intro n hmem
    have hn := SyntaxTree.mem_typeGroup_iff.1 hmem
    obtain ⟨nameNode, hname, -⟩ := Option.map_eq_some_iff.1 hn.name_eq
    rw [findMerging_of_declares h hn hname]
    by_cases hfirst : (ctx.tree.typeGroup scope name).head? = some n
    · simp [hfirst]
    · simp [hfirst]
  rw [List.filter_congr hfires]
  have hnodup := ctx.tree.nodup_typeGroup scope name
  cases hgroup : ctx.tree.typeGroup scope name with
  | nil => rfl
  | cons first rest =>
    rw [hgroup, List.nodup_cons] at hnodup
    have hrest : ∀ n ∈ rest, decide ((first :: rest).head? ≠ some n) = true := by
      intro n hn
      rw [decide_eq_true_eq, List.head?_cons, ne_eq, Option.some.injEq]
      rintro rfl
      exact hnodup.1 hn
    rw [List.filter_cons_of_neg (by simp), List.filter_eq_self.2 hrest, List.tail_cons]

/-! ## What becomes of a hit -/

/-- All that the rule takes from the index for a member of a group is as ambient as the scope. -/
theorem all_ambient_typeSiblings {n scope : Node ctx.tree} {name : String}
    (hn : n.DeclaresType scope name) :
    (typeSiblings ctx n).all (·.ambient) = scope.isAmbientBlock := by
  have hambient : ∀ e ∈ typeSiblings ctx n, e.ambient = scope.isAmbientBlock := by
    intro e he
    rw [typeSiblings_of_declares h hn, List.mem_filter, ScopeIndex.declarationsOf, List.mem_filter,
      Bool.and_eq_true, beq_iff_eq] at he
    obtain ⟨⟨hmem, hscope, -⟩, -⟩ := he
    rw [(Node.of_declaration? (h.declared e hmem)).ambient_eq, hscope]
  have hne : typeSiblings ctx n ≠ [] := by
    intro hnil
    have hmem := SyntaxTree.mem_typeGroup_iff.2 hn
    rw [← map_node_typeSiblings h hn, hnil] at hmem
    cases hmem
  cases hblock : scope.isAmbientBlock with
  | true =>
    rw [List.all_eq_true]
    intro e he
    exact (hambient e he).trans hblock
  | false =>
    obtain ⟨e, he⟩ := List.exists_mem_of_ne_nil _ hne
    rw [List.all_eq_false]
    refine ⟨e, he, ?_⟩
    rw [hambient e he, hblock]
    decide

/-- A hit in a group is suppressed when the file only declares or the scope is an ambient block. -/
theorem confirmMerging_of_declares {m : Match ctx.tree} {scope : Node ctx.tree} {name : String}
    (hm : m.node.DeclaresType scope name) :
    confirmMerging ctx m =
      if ctx.isDeclarationFile || scope.isAmbientBlock then .suppressed else .confirmed := by
  rw [confirmMerging, all_ambient_typeSiblings h hm]
  cases ctx.isDeclarationFile with
  | true => rfl
  | false => rfl

end

/-! ## The rule -/

/-- The rule flags what repeats a name, and nothing else. -/
structure FlagsRepeats (ctx : FileContext) : Prop where
  /-- It fires on the members of groups that are not the first, and reports them at their names. -/
  fires : ∀ (n : Node ctx.tree) (captures : Captures ctx.tree),
    noAccidentalDeclarationMerging.evaluate ctx n = .ok (some captures) ↔
      ∃ scope name nameNode, n ∈ (ctx.tree.typeGroup scope name).tail ∧
        n.child? "name" = some nameNode ∧
        captures = (Captures.empty.bindNode "name" nameNode).bindNode "span" nameNode
  /-- On other nodes it is tried without a fault and does not fire. -/
  silent : ∀ n : Node ctx.tree, (∀ scope name, n ∉ (ctx.tree.typeGroup scope name).tail) →
    noAccidentalDeclarationMerging.evaluate ctx n = .ok none
  /-- In a group of `k` it fires `k - 1` times. -/
  counts : ∀ (scope : Node ctx.tree) (name : String),
    (ctx.tree.typeGroup scope name).countP (fun n => (findMerging ctx n).isSome) =
      (ctx.tree.typeGroup scope name).length - 1
  /-- A hit is suppressed when the file only declares or the scope is an ambient block, and is
  confirmed otherwise. -/
  answers : ∀ (scope : Node ctx.tree) (name : String) (m : Match ctx.tree),
    m.node ∈ (ctx.tree.typeGroup scope name).tail →
    noAccidentalDeclarationMerging.confirm.map (· ctx m) = some (.ok
      (if ctx.isDeclarationFile || scope.isAmbientBlock then .suppressed else .confirmed))
  /-- The hits in a group are all suppressed or all confirmed. -/
  alike : ∀ (scope : Node ctx.tree) (name : String), ∃ verdict ∈ [Verdict.suppressed, .confirmed],
    ∀ m : Match ctx.tree, m.node ∈ (ctx.tree.typeGroup scope name).tail →
      noAccidentalDeclarationMerging.confirm.map (· ctx m) = some (.ok verdict)

/-- An index that has the interfaces and type aliases is all that the rule needs. -/
theorem flagsRepeats_of_listsTypes (h : ctx.scopes.ListsTypes) : FlagsRepeats ctx := by
  have hevaluate : ∀ n : Node ctx.tree,
      noAccidentalDeclarationMerging.evaluate ctx n = .ok (findMerging ctx n) := fun _ => rfl
  have hanswers : ∀ (scope : Node ctx.tree) (name : String) (m : Match ctx.tree),
      m.node ∈ (ctx.tree.typeGroup scope name).tail →
      noAccidentalDeclarationMerging.confirm.map (· ctx m) = some (.ok
        (if ctx.isDeclarationFile || scope.isAmbientBlock then .suppressed else .confirmed)) := by
    intro scope name m hm
    rw [← confirmMerging_of_declares h (SyntaxTree.mem_tail_typeGroup_iff.1 hm).1]
    rfl
  refine ⟨?_, ?_, ?_, hanswers, ?_⟩
  · intro n captures
    rw [hevaluate, Except.ok.injEq]
    exact findMerging_eq_some_iff h
  · intro n hn
    rw [hevaluate, Except.ok.injEq, Option.eq_none_iff_forall_ne_some]
    intro captures hfound
    obtain ⟨scope, name, -, hmem, -⟩ := (findMerging_eq_some_iff h).1 hfound
    exact hn scope name hmem
  · intro scope name
    rw [List.countP_eq_length_filter, filter_findMerging h, List.length_tail]
  · intro scope name
    refine ⟨_, ?_, hanswers scope name⟩
    by_cases hsuppressed : (ctx.isDeclarationFile || scope.isAmbientBlock) = true
    · simp [hsuppressed]
    · simp [hsuppressed]

/-- **Repeated names are flagged.** Whatever the file and the tree, the rule fires on the interfaces
and type aliases that are not the first of their name in their scope, and what becomes of the hits is
the same for all of a group. Classes, enums, functions and namespaces of the name have no part in
this: with any other selection of them in the index, the hits and the answers stay. -/
theorem merging_flagged_at_repeats (path : String) (t : SyntaxTree) (oracle : Option TypeOracle) :
    FlagsRepeats (.make path t oracle) ∧
    ∀ index : ScopeIndex t, index.ListsTypes →
      FlagsRepeats ((FileContext.make path t oracle).reindexed index) ∧
      (∀ n : Node t, findMerging ((FileContext.make path t oracle).reindexed index) n =
        findMerging (.make path t oracle) n) ∧
      ∀ (scope : Node t) (name : String) (m : Match t), m.node ∈ (t.typeGroup scope name).tail →
        confirmMerging ((FileContext.make path t oracle).reindexed index) m =
          confirmMerging (.make path t oracle) m := by
  have htree : (FileContext.make path t oracle).scopes.ListsTypes := ScopeIndex.listsTypes_ofTree t
  refine ⟨flagsRepeats_of_listsTypes htree, fun index hindex => ?_⟩
  have hother : ((FileContext.make path t oracle).reindexed index).scopes.ListsTypes := hindex
  refine ⟨flagsRepeats_of_listsTypes hother, fun n => ?_, fun scope name m hm => ?_⟩
  · refine Option.ext fun captures => ?_
    exact (findMerging_eq_some_iff hother).trans (findMerging_eq_some_iff htree).symm
  · have hdeclares := (SyntaxTree.mem_tail_typeGroup_iff.1 hm).1
    exact (confirmMerging_of_declares hother hdeclares).trans
      (confirmMerging_of_declares htree hdeclares).symm

end Catalog

end TypeLint
