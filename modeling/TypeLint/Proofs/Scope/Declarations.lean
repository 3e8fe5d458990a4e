import TypeLint.Proofs.Tree.Ancestors
import TypeLint.Scope.Basic

/-!
# Declarations and the blocks they stand in

The scope index of a tree has one declaration for every node that makes one
(`ScopeIndex.mem_declarations_iff`), with the nearest scope above the node and whether that is an
ambient block (`Declaration.Of`).

A block is ambient when an ambient declaration is met on the way up before any block that is not the
body of a namespace or a module (`isAmbientBlock_iff`). The body of a `declare global` is a block that
stands right under an ambient declaration, and it is neither. As a block it is ambient itself, but it
stops the search of every block further in. So of the blocks that are nested in an ambient declaration
through bodies alone, those are missed whose nearest ambient declaration has such a body around them,
and no others: `nested_block_ambient_iff`.
-/

namespace TypeLint

variable {t : SyntaxTree}

/-! ## What the index records -/

theorem Node.isOneOf_iff {n : Node t} {kinds : List String} :
    n.isOneOf kinds = true ↔ n.kind ∈ kinds :=
  List.contains_iff_mem

/-- The declaration is the one that the node makes. -/
structure Declaration.Of (n : Node t) (d : Declaration t) : Prop where
  node_eq : d.node = n
  kind_eq : DeclarationKind.ofNodeKind? n.kind = some d.kind
  name_eq : (n.child? "name").map (·.text) = some d.name
  scope_nearest : Node.Nearest (·.isOneOf ["program", "statement_block"]) n d.scope
  ambient_eq : d.ambient = d.scope.isAmbientBlock

namespace Node

theorem of_declaration? {n : Node t} {d : Declaration t} (h : n.declaration? = some d) : d.Of n := by
  obtain ⟨kind, hkind, h⟩ := Option.bind_eq_some_iff.1 h
  obtain ⟨name, hname, h⟩ := Option.bind_eq_some_iff.1 h
  obtain ⟨scope, hscope, h⟩ := Option.bind_eq_some_iff.1 h
  cases h
  exact ⟨rfl, hkind, by rw [hname]; rfl, find?_ancestors_eq_some_iff.1 hscope, rfl⟩

/-- A node of a kind that declares, with a name and a scope, makes a declaration. -/
theorem exists_declaration? {n name scope : Node t} {kind : DeclarationKind}
    (hkind : DeclarationKind.ofNodeKind? n.kind = some kind) (hname : n.child? "name" = some name)
    (hscope : Nearest (·.isOneOf ["program", "statement_block"]) n scope) :
    ∃ d, n.declaration? = some d ∧ d.kind = kind ∧ d.name = name.text ∧ d.scope = scope := by
  have hscope : n.enclosingScope? = some scope := find?_ancestors_eq_some_iff.2 hscope
  unfold declaration?
  rw [hkind, hname, hscope]
  exact ⟨_, rfl, rfl, rfl, rfl⟩

end Node

/-- The index of a tree has what its nodes declare. -/
theorem ScopeIndex.mem_declarations_iff {d : Declaration t} :
    d ∈ (ScopeIndex.ofTree t).declarations ↔ d.node.declaration? = some d := by
  show d ∈ t.preorder.filterMap (·.declaration?) ↔ _
  rw [List.mem_filterMap]
  constructor
  · intro h
    obtain ⟨n, -, hn⟩ := h
    rw [(Node.of_declaration? hn).node_eq]
    exact hn
  · intro h
    exact ⟨d.node, SyntaxTree.mem_preorder _, h⟩

/-! ## Ambient blocks -/

namespace Node

/-- The node is the body of a namespace, of a module or of an ambient declaration. -/
def isDeclarationBody (n : Node t) : Bool :=
  n.parent.any (·.isOneOf ["internal_module", "module", "ambient_declaration"])

/-- The block lies in the ambient declaration `a`, and the blocks between them are bodies of
namespaces, of modules or of ambient declarations. -/
structure NestedIn (b a : Node t) : Prop where
  block : b.kind = "statement_block"
  above : a ∈ b.ancestors
  ambient : a.isAmbientDeclaration = true
  bodies : ∀ c ∈ b.ancestors, a ∈ c.ancestors → c.kind = "statement_block" →
    c.isDeclarationBody = true

/-- The nearest ambient declaration has a block of its own right under it, as `declare global` has,
and the node lies within that block. -/
def WithinOwnBlock (b : Node t) : Prop :=
  ∃ a g, Nearest isAmbientDeclaration b a ∧ a.kind = "ambient_declaration" ∧
    g ∈ b.ancestors ∧ g.kind = "statement_block" ∧ g.parent = some a

theorem not_block_of_isAmbientDeclaration {a : Node t} (h : a.isAmbientDeclaration = true) :
    a.kind ≠ "statement_block" := by
  intro hkind
  have hmem := isOneOf_iff.1 h
  rw [hkind] at hmem
  exact absurd hmem (by decide)

/-- A block is ambient when it has an ambient declaration above it, and between them no block but
bodies of namespaces and modules. -/
theorem isAmbientBlock_iff {b : Node t} :
    b.isAmbientBlock = true ↔
      b.kind = "statement_block" ∧ ∃ a ∈ b.ancestors, a.isAmbientDeclaration = true ∧
        ∀ c ∈ b.ancestors, a ∈ c.ancestors → c.kind = "statement_block" →
          c.isNamespaceBody = true := by
  have hpass : ∀ c : Node t, (c.kind != "statement_block" || c.isNamespaceBody) = true ↔
      (c.kind = "statement_block" → c.isNamespaceBody = true) := by
    intro c
    by_cases hkind : c.kind = "statement_block"
    · simp [hkind]
    · simp [hkind]
  rw [isAmbientBlock, Bool.and_eq_true, beq_iff_eq, any_takeWhile_ancestors_iff]
  simp only [hpass]
  constructor
  · rintro ⟨hblock, a, ha, hambient, -, hbodies⟩
    exact ⟨hblock, a, ha, hambient, hbodies⟩
  · rintro ⟨hblock, a, ha, hambient, hbodies⟩
    exact ⟨hblock, a, ha, hambient,
      fun hkind => absurd hkind (not_block_of_isAmbientDeclaration hambient), hbodies⟩

/-- The body of an ambient declaration is not taken for one of a namespace or a module. -/
theorem isNamespaceBody_eq_false {g a : Node t} (hparent : g.parent = some a)
    (hkind : a.kind = "ambient_declaration") : g.isNamespaceBody = false := by
  rw [isNamespaceBody, hparent, Option.any_some, isOneOf, hkind]
  decide

/-- A body is one of a namespace or a module, or it stands right under an ambient declaration. -/
theorem isNamespaceBody_of_isDeclarationBody {c : Node t} (h : c.isDeclarationBody = true)
    (hnot : ∀ a, c.parent = some a → a.kind ≠ "ambient_declaration") : c.isNamespaceBody = true := by
  unfold isDeclarationBody at h
  unfold isNamespaceBody
  cases hparent : c.parent with
  | none =>
    rw [hparent] at h
    cases h
  | some a =>
    rw [hparent, Option.any_some, isOneOf_iff] at h
    rw [Option.any_some, isOneOf_iff]
    have hkind := hnot a hparent
    simp only [List.mem_cons, List.not_mem_nil, or_false] at h ⊢
    rcases h with h | h | h
    · exact Or.inl h
    · exact Or.inr h
    · exact absurd h hkind

/-- Within the own block of the nearest ambient declaration the search is stopped. -/
theorem not_withinOwnBlock_of_isAmbientBlock {b : Node t} (h : b.isAmbientBlock = true) :
    ¬ b.WithinOwnBlock := by
  rintro ⟨a, g, hnearest, hkind, hg, hblock, hparent⟩
  obtain ⟨-, a', ha', hambient, hbodies⟩ := isAmbientBlock_iff.1 h
  -- whatever ambient declaration ends the search lies above the block that stops it
  have habove : a' ∈ g.ancestors :=
    mem_ancestors_iff.2 ⟨a, hparent, hnearest.atOrAbove ha' hambient⟩
  have hbody := hbodies g hg habove hblock
  rw [isNamespaceBody_eq_false hparent hkind] at hbody
  cases hbody

/-- Everywhere else the nearest ambient declaration is reached. -/
theorem NestedIn.isAmbientBlock {b a : Node t} (h : b.NestedIn a) (hnot : ¬ b.WithinOwnBlock) :
    b.isAmbientBlock = true := by
  obtain ⟨a₀, hnearest⟩ := exists_nearest h.above h.ambient
  refine isAmbientBlock_iff.2 ⟨h.block, a₀, hnearest.above, hnearest.passes, fun c hc ha₀ hblock => ?_⟩
  have habove : a ∈ c.ancestors := by
    rcases hnearest.atOrAbove h.above h.ambient with rfl | ha
    · exact ha₀
    · exact mem_ancestors_trans ha ha₀
  refine isNamespaceBody_of_isDeclarationBody (h.bodies c hc habove hblock) fun p hp hkind => ?_
  -- an ambient declaration at or below the nearest one is the nearest one
  obtain ⟨p', hp', hle⟩ := mem_ancestors_iff.1 ha₀
  rw [hp] at hp'
  cases hp'
  rcases hle with rfl | hlt
  · exact hnot ⟨a₀, c, hnearest, hkind, hc, hblock, hp⟩
  · have hpb : p ∈ b.ancestors :=
      mem_ancestors_trans (mem_ancestors_iff.2 ⟨p, hp, .refl p⟩) hc
    have hfail := hnearest.between p hpb hlt
    rw [isAmbientDeclaration, isOneOf, hkind] at hfail
    exact absurd hfail (by decide)

theorem NestedIn.inAmbientContext {b a : Node t} (h : b.NestedIn a) : b.inAmbientContext = true :=
  List.any_eq_true.2 ⟨a, h.above, h.ambient⟩

end Node

/-- **Which nested blocks are ambient.** A block that lies in an ambient declaration, with nothing but
bodies of namespaces, modules and ambient declarations between, always has an ambient context. It is
taken for an ambient block, and what it declares is recorded as ambient, exactly when the nearest
ambient declaration does not have a block of its own around it. -/
theorem nested_block_ambient_iff {b a : Node t} (h : b.NestedIn a) :
    b.inAmbientContext = true ∧
    (b.isAmbientBlock = true ↔ ¬ b.WithinOwnBlock) ∧
    ∀ (n : Node t) (d : Declaration t), n.declaration? = some d → d.scope = b →
      d ∈ (ScopeIndex.ofTree t).declarations ∧ (d.ambient = true ↔ ¬ b.WithinOwnBlock) := by
  have hiff : b.isAmbientBlock = true ↔ ¬ b.WithinOwnBlock :=
    ⟨Node.not_withinOwnBlock_of_isAmbientBlock, h.isAmbientBlock⟩
  refine ⟨h.inAmbientContext, hiff, fun n d hd hscope => ?_⟩
  have hof := Node.of_declaration? hd
  refine ⟨ScopeIndex.mem_declarations_iff.2 ?_, ?_⟩
  · rw [hof.node_eq]
    exact hd
  · rw [hof.ambient_eq, hscope]
    exact hiff

/-! ## A namespace in a global declaration

The text `declare global { namespace N { interface A {} } }`. The body of `N` has nothing but the body
of `declare global` above it, and is not taken for an ambient block. -/

def globalEntries : Array Tree.Entry :=
  #[⟨none, "program", none, true, 0, 49⟩,
    ⟨some 0, "ambient_declaration", none, true, 0, 49⟩,
    ⟨some 1, "declare", none, false, 0, 7⟩,
    ⟨some 1, "global", none, false, 8, 14⟩,
    ⟨some 1, "statement_block", none, true, 15, 49⟩,
    ⟨some 4, "\x7b", none, false, 15, 16⟩,
    ⟨some 4, "expression_statement", none, true, 17, 47⟩,
    ⟨some 6, "internal_module", none, true, 17, 47⟩,
    ⟨some 7, "namespace", none, false, 17, 26⟩,
    ⟨some 7, "identifier", some "name", true, 27, 28⟩,
    ⟨some 7, "statement_block", some "body", true, 29, 47⟩,
    ⟨some 10, "\x7b", none, false, 29, 30⟩,
    ⟨some 10, "interface_declaration", none, true, 31, 45⟩,
    ⟨some 12, "interface", none, false, 31, 40⟩,
    ⟨some 12, "type_identifier", some "name", true, 41, 42⟩,
    ⟨some 12, "interface_body", some "body", true, 43, 45⟩,
    ⟨some 15, "\x7b", none, false, 43, 44⟩,
    ⟨some 15, "\x7d", none, false, 44, 45⟩,
    ⟨some 10, "\x7d", none, false, 46, 47⟩,
    ⟨some 4, "\x7d", none, false, 48, 49⟩]

def globalTree : SyntaxTree where
  source := "declare global \x7b namespace N \x7b interface A \x7b\x7d \x7d \x7d"
  entries := globalEntries
  childIds := Tree.childLists globalEntries
  coherent := Tree.firstError?_eq_none_iff.1 (by decide +kernel)
  nonempty := by decide
  childIds_eq := rfl

/-- The ambient declaration. -/
def declareGlobal : Node globalTree := ⟨1, by decide⟩

/-- The body of the namespace. -/
def namespaceBody : Node globalTree := ⟨10, by decide⟩

/-- The interface in the namespace. -/
def innerInterface : Node globalTree := ⟨12, by decide⟩

theorem nestedIn_namespaceBody : namespaceBody.NestedIn declareGlobal :=
  ⟨by decide +kernel, by decide +kernel, by decide +kernel, by decide +kernel⟩

/-- The body of the namespace is nested in `declare global`, and so is what it declares, but neither is
taken for ambient. -/
theorem global_namespace_not_ambient :
    namespaceBody.NestedIn declareGlobal ∧ namespaceBody.inAmbientContext = true ∧
    namespaceBody.isAmbientBlock = false ∧
    innerInterface.declaration? = some
      { name := "A", kind := .interfaceType, node := innerInterface, nameSpan := ⟨41, 42⟩
        scope := namespaceBody, ambient := false, exported := false } :=
  ⟨nestedIn_namespaceBody, by decide +kernel, by decide +kernel, by decide +kernel⟩

theorem nested_block_ambient_iff_global :
    namespaceBody.inAmbientContext = true ∧
    (namespaceBody.isAmbientBlock = true ↔ ¬ namespaceBody.WithinOwnBlock) ∧
    ∀ (n : Node globalTree) (d : Declaration globalTree), n.declaration? = some d →
      d.scope = namespaceBody → d ∈ (ScopeIndex.ofTree globalTree).declarations ∧
        (d.ambient = true ↔ ¬ namespaceBody.WithinOwnBlock) :=
  nested_block_ambient_iff nestedIn_namespaceBody

end TypeLint
