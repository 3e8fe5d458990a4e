import TypeLint.Proofs.Tree.Walks
import TypeLint.Scope.Basic

/-!
# Which references to a type parameter count

`Node.countTypeRefs` walks down from a node and passes by what hides the name. `Node.Mentions` says
without a walk what a reference is: a node below that spells the name, unqualified, with no function
on the way that declares a type parameter of this name. A walk goes through grammar rules only, so a
reference is counted exactly when there is no bare token on the way either (`mem_references_iff`).

What the scope index records of a type parameter is put together from such counts, one for each part
of the function that declares it: `TypeParameterUse.Of` lists them, and every entry of the index is of
this form (`of_use?`).
-/

namespace TypeLint

variable {t : SyntaxTree}

/-! ## References below a node -/

namespace Node

/-- The references to the name that are counted at a node and below it, in document order. -/
def references (root : Node t) (name : String) : List (Node t) :=
  (root.reach (openTo name)).filter (·.refersTo name)

/-- On the way down to `d` stands a function with a type parameter of this name. -/
def Shadowed (root d : Node t) (name : String) : Prop :=
  ∃ a, OnTheWay root d a ∧ a.shadows name = true

/-- On the way down to `d` stands a bare token. -/
def BehindToken (root d : Node t) : Prop := ∃ a, OnTheWay root d a ∧ a.named = false

/-- Below `root` the node `d` refers to the name: it spells it, unqualified, and nothing on the way
hides it. -/
structure Mentions (root : Node t) (name : String) (d : Node t) : Prop where
  below : root.AtOrAbove d
  refers : d.refersTo name = true
  unshadowed : ¬ Shadowed root d name

/-- A reference seen from further down is still one. -/
theorem Mentions.narrow {root r d : Node t} {name : String} (h : root.Mentions name d)
    (hroot : root.AtOrAbove r) (hr : r.AtOrAbove d) : r.Mentions name d where
  below := hr
  refers := h.refers
  unshadowed := fun hshadow => by
    obtain ⟨a, ha, hname⟩ := hshadow
    exact h.unshadowed ⟨a, ha.widen hroot, hname⟩

/-- A reference below a child that does not hide the name is one below the node. -/
theorem Mentions.of_mem_children {root c d : Node t} {name : String} (h : c.Mentions name d)
    (hc : c ∈ root.children) (hopen : c.shadows name = false) : root.Mentions name d where
  below := (AtOrAbove.of_mem_children hc).trans h.below
  refers := h.refers
  unshadowed := fun hshadow => by
    obtain ⟨a, ha, hname⟩ := hshadow
    rcases ha.of_mem_children hc h.below with rfl | ha
    · rw [hopen] at hname
      cases hname
    · exact h.unshadowed ⟨a, ha, hname⟩

/-- Nothing on the way to a reference hides the name. -/
theorem Mentions.shadows_of_mem_children {root c d : Node t} {name : String}
    (h : root.Mentions name d) (hc : c ∈ root.children) (hcd : c.AtOrAbove d) :
    c.shadows name = false :=
  Bool.eq_false_iff.2 fun hname => h.unshadowed
    ⟨c, ⟨mem_ancestors_iff.2 ⟨root, mem_children_iff.1 hc, .refl root⟩, hcd⟩, hname⟩

/-- The walk that counts goes to a child that is a grammar rule and does not hide the name. -/
theorem openTo_eq (name : String) :
    openTo (t := t) name = fun n => n.children.filter fun c => !c.shadows name && c.named := by
  funext n
  rw [openTo, namedChildren, List.filter_filter]

/-- The references that count are those without a bare token on the way. -/
theorem mem_references_iff {root d : Node t} {name : String} :
    d ∈ root.references name ↔ root.Mentions name d ∧ ¬ BehindToken root d := by
  rw [references, List.mem_filter, openTo_eq, mem_reach_filter_iff]
  constructor
  · intro h
    obtain ⟨⟨hbelow, hall⟩, hrefers⟩ := h
    refine ⟨⟨hbelow, hrefers, fun hshadow => ?_⟩, fun htoken => ?_⟩
    · obtain ⟨a, ha, hname⟩ := hshadow
      have hopen := hall a ha
      rw [hname] at hopen
      cases hopen
    · obtain ⟨a, ha, hnamed⟩ := htoken
      have hopen := hall a ha
      rw [hnamed, Bool.and_false] at hopen
      cases hopen
  · intro h
    obtain ⟨⟨hbelow, hrefers, hunshadowed⟩, hnamed⟩ := h
    refine ⟨⟨hbelow, fun a ha => ?_⟩, hrefers⟩
    rw [Bool.and_eq_true, Bool.not_eq_true']
    refine ⟨Bool.eq_false_iff.2 fun hname => hunshadowed ⟨a, ha, hname⟩, ?_⟩
    exact Bool.of_not_eq_false fun hfalse => hnamed ⟨a, ha, hfalse⟩

theorem countTypeRefs_eq_length (root : Node t) (name : String) :
    root.countTypeRefs name = (root.references name).length :=
  List.countP_eq_length_filter

/-- A node refers to one name at most: to the text it spells. -/
theorem text_eq_of_refersTo {d : Node t} {name : String} (h : d.refersTo name = true) :
    d.text = name := by
  rw [refersTo, Bool.and_eq_true, Bool.and_eq_true] at h
  exact beq_iff_eq.1 h.1.2

/-- The references that are counted in the child under a field. -/
def referencesUnder (n : Node t) (field name : String) : List (Node t) :=
  match n.child? field with
  | some child => child.references name
  | none => []

theorem referencesUnder_of_child? {n child : Node t} {field : String}
    (h : n.child? field = some child) (name : String) :
    n.referencesUnder field name = child.references name := by
  rw [referencesUnder, h]

theorem countUnder_eq_length (n : Node t) (field name : String) :
    n.countUnder field name = (n.referencesUnder field name).length := by
  unfold countUnder referencesUnder
  cases n.child? field with
  | some child => exact countTypeRefs_eq_length child name
  | none => rfl

theorem referencesUnder_eq_nil {n : Node t} {field name : String} (h : n.countUnder field name = 0) :
    n.referencesUnder field name = [] := by
  rw [countUnder_eq_length] at h
  exact List.eq_nil_of_length_eq_zero h

theorem parent_of_child? {n c : Node t} {field : String} (h : n.child? field = some c) :
    c.parent = some n :=
  mem_children_iff.1 (mem_children_of_child? h)

/-- Children under different fields are different. -/
theorem ne_of_child?_ne {n c d : Node t} {field other : String} (hc : n.child? field = some c)
    (hd : n.child? other = some d) (hne : field ≠ other) : c ≠ d := by
  rintro rfl
  have hfield := List.find?_some hc
  have hother := List.find?_some hd
  rw [beq_iff_eq] at hfield hother
  rw [hfield] at hother
  exact hne (Option.some.inj hother)

theorem mem_children_of_mem_typeParameters {list p : Node t} (h : p ∈ list.typeParameters) :
    p ∈ list.children :=
  mem_children_of_mem_namedChildren (List.mem_filter.1 h).1

end Node

/-! ## What the index records -/

/-- The entry is about a type parameter of a function with this list of them, and counts the
references in the parts of the function. -/
structure TypeParameterUse.Of (list : Node t) (use : TypeParameterUse t) : Prop where
  isFunction : use.owner.isFunction = true
  list_eq : use.owner.child? "type_parameters" = some list
  param_mem : use.param ∈ list.typeParameters
  name_eq : (use.param.child? "name").map (·.text) = some use.name
  signatureRefs_eq : use.signatureRefs =
    use.owner.countUnder "parameters" use.name + use.owner.countUnder "return_type" use.name +
      (list.typeParameters.filter (· != use.param)).foldr
        (fun p refs => p.countInParameter use.name + refs) 0
  returnRefs_eq : use.returnRefs = use.owner.countUnder "return_type" use.name
  bodyRefs_eq : use.bodyRefs = use.owner.countUnder "body" use.name

theorem Node.of_mem_typeParameterUses {owner : Node t} {use : TypeParameterUse t}
    (h : use ∈ owner.typeParameterUses) : use.owner = owner ∧ ∃ list, use.Of list := by
  unfold typeParameterUses at h
  split at h
  next hfunction =>
    split at h
    next => cases h
    next list hlist =>
      obtain ⟨param, hparam, huse⟩ := List.mem_filterMap.1 h
      obtain ⟨nameNode, hname, rfl⟩ := Option.map_eq_some_iff.1 huse
      exact ⟨rfl, list, hfunction, hlist, hparam, by rw [hname]; rfl, rfl, rfl, rfl⟩
  next => cases h

/-- What the index of a tree has of a type parameter are its uses in the function that declares it. -/
theorem ScopeIndex.of_use? {param : Node t} {use : TypeParameterUse t}
    (h : (ScopeIndex.ofTree t).use? param = some use) : use.param = param ∧ ∃ list, use.Of list := by
  have hparam := List.find?_some h
  obtain ⟨owner, -, hmem⟩ := List.mem_flatMap.1 (List.mem_of_find?_eq_some h)
  exact ⟨beq_iff_eq.1 hparam, (Node.of_mem_typeParameterUses hmem).2⟩

namespace TypeParameterUse.Of

variable {list : Node t} {use : TypeParameterUse t}

theorem parent_param (h : use.Of list) : use.param.parent = some list :=
  Node.mem_children_iff.1 (Node.mem_children_of_mem_typeParameters h.param_mem)

/-- When nothing but the parameters can have a reference, none of the other parts has one. -/
theorem referencesUnder_eq_nil (h : use.Of list)
    (hrefs : use.signatureRefs ≤ use.owner.countUnder "parameters" use.name)
    (hbody : use.bodyRefs = 0) :
    use.owner.referencesUnder "return_type" use.name = [] ∧
    use.owner.referencesUnder "body" use.name = [] ∧
    ∀ p ∈ list.typeParameters, p ≠ use.param →
      p.referencesUnder "constraint" use.name = [] ∧ p.referencesUnder "value" use.name = [] := by
  have hsum := h.signatureRefs_eq
  refine ⟨Node.referencesUnder_eq_nil (by omega),
    Node.referencesUnder_eq_nil (by rw [← h.bodyRefs_eq, hbody]), fun p hp hne => ?_⟩
  have hsiblings : ∀ (ps : List (Node t)),
      ps.foldr (fun p refs => p.countInParameter use.name + refs) 0 = 0 →
      ∀ p ∈ ps, p.countInParameter use.name = 0 := by
    intro ps
    induction ps with
    | nil => exact fun _ p hp => by cases hp
    | cons q ps ih =>
      intro hzero
      rw [List.foldr_cons] at hzero
      exact List.forall_mem_cons.2 ⟨by omega, ih (by omega)⟩
  have hmem : p ∈ list.typeParameters.filter (· != use.param) :=
    List.mem_filter.2 ⟨hp, bne_iff_ne.2 hne⟩
  have hzero := hsiblings _ (by omega) p hmem
  unfold Node.countInParameter at hzero
  exact ⟨Node.referencesUnder_eq_nil (by omega), Node.referencesUnder_eq_nil (by omega)⟩

end TypeParameterUse.Of

end TypeLint
