import TypeLint.Catalog.TypeParameters
import TypeLint.Proofs.Scope.References

/-!
# Type parameters that can go

`removable` answers for a type parameter that nothing but the parameters of its function refers to,
and that at most once (`Removable.Of`).

The reference that is replaced is looked for and not counted: it is the first node among the
parameters that spells the name. The count passes by functions that declare the name anew, the search
does not. So the two agree exactly when the found node is not hidden, which is when nothing before the
counted reference spells the name (`selected_eq_counted_iff`). A callback with a type parameter of the
same name, to the left of the reference, makes them differ.
-/

namespace TypeLint.Catalog

/-! ## The first reference -/

section

variable {t : SyntaxTree} {parameters selected counted : Node t} {name : String}

/-- What is found is at the node or below it and spells the name; nothing before it does. -/
theorem findReference?_eq_some_iff :
    findReference? parameters name = some selected ↔
      selected.refersTo name = true ∧ ∃ front back,
        parameters.descendants = front ++ selected :: back ∧
        ∀ d ∈ front, d.refersTo name = false := by
  rw [findReference?, List.find?_eq_some_iff_append]
  simp only [Bool.not_eq_true']

/-- Of the nodes that spell the name one is counted, and the others are hidden. -/
theorem counted_or_hidden (hone : parameters.references name = [counted]) {d : Node t}
    (hd : d ∈ parameters.descendants) (hrefers : d.refersTo name = true) :
    d = counted ∨ parameters.Shadowed d name ∨ parameters.BehindToken d := by
  by_cases hhidden : parameters.Shadowed d name ∨ parameters.BehindToken d
  · exact Or.inr hhidden
  · rw [not_or] at hhidden
    have hmem : d ∈ parameters.references name := Node.mem_references_iff.2
      ⟨⟨Node.mem_descendants_iff.1 hd, hrefers, hhidden.1⟩, hhidden.2⟩
    rw [hone] at hmem
    exact Or.inl (List.mem_singleton.1 hmem)

/-- The search finds the reference that is counted when it finds one that is not hidden. -/
theorem eq_counted_iff_not_hidden (hone : parameters.references name = [counted])
    (hfind : findReference? parameters name = some selected) :
    selected = counted ↔
      ¬ parameters.Shadowed selected name ∧ ¬ parameters.BehindToken selected := by
  have hcounted : counted ∈ parameters.references name := by
    rw [hone]
    exact List.mem_singleton_self _
  constructor
  · rintro rfl
    have hmentions := Node.mem_references_iff.1 hcounted
    exact ⟨hmentions.1.unshadowed, hmentions.2⟩
  · rintro ⟨hunshadowed, hnamed⟩
    have hrefers := (findReference?_eq_some_iff.1 hfind).1
    rcases counted_or_hidden hone (List.mem_of_find?_eq_some hfind) hrefers with h | h | h
    · exact h
    · exact absurd h hunshadowed
    · exact absurd h hnamed

/-- The search finds the reference that is counted when nothing before it spells the name. -/
theorem eq_counted_iff_first (hone : parameters.references name = [counted])
    (hfind : findReference? parameters name = some selected) :
    selected = counted ↔
      ∀ d ∈ parameters.descendants.takeWhile (· != counted), d.refersTo name = false := by
  obtain ⟨hrefers, front, back, happend, hfront⟩ := findReference?_eq_some_iff.1 hfind
  have hcounted := Node.mem_references_iff.1 (hone ▸ List.mem_singleton_self counted)
  -- the counted reference spells the name, so it does not come before the found one
  have hnot : counted ∉ front := by
    intro h
    have hfalse := hfront counted h
    rw [hcounted.1.refers] at hfalse
    cases hfalse
  have hskip : ∀ d ∈ front, (d != counted) = true := fun d hd =>
    bne_iff_ne.2 fun heq => hnot (heq ▸ hd)
  rw [happend, List.takeWhile_append_of_pos hskip]
  constructor
  · rintro rfl d hd
    rw [List.takeWhile_cons_of_neg (by simp), List.append_nil] at hd
    exact hfront d hd
  · intro h
    by_contra hne
    have hpass : (selected != counted) = true := bne_iff_ne.2 hne
    rw [List.takeWhile_cons, if_pos hpass] at h
    have hfalse := h selected (List.mem_append_right _ List.mem_cons_self)
    rw [hrefers] at hfalse
    cases hfalse

end

/-! ## What can go -/

deriving instance DecidableEq for Removable

theorem toOption_eq_some_iff {ε α : Type} {x : Except ε α} {a : α} :
    x.toOption = some a ↔ x = .ok a := by
  cases x with
  | error _ => simp [Except.toOption]
  | ok _ => simp [Except.toOption]

/-- The type parameter of the entry can go: neither body nor return type refers to it, and what the
signature has of it is in the parameters, where the first one that spells the name is taken. -/
structure Removable.Of {t : SyntaxTree} (use : TypeParameterUse t) (r : Removable t) : Prop where
  param_eq : r.param = use.param
  name_eq : r.name = use.name
  bodyRefs_eq : use.bodyRefs = 0
  reference_cases :
    use.signatureRefs = 0 ∧ r.reference = none ∨
    use.signatureRefs = 1 ∧ ∃ parameters counted selected,
      use.owner.child? "parameters" = some parameters ∧ parameters.references use.name = [counted] ∧
      findReference? parameters use.name = some selected ∧ r.reference = some selected

theorem of_removable {ctx : FileContext} {param : Node ctx.tree} {r : Removable ctx.tree}
    (h : removable ctx param = .ok r) : ∃ use, ctx.scopes.use? param = some use ∧ r.Of use := by
  unfold removable at h
  split at h
  next => cases h
  next use huse =>
    have hfound := List.find?_some huse
    have hparam : use.param = param := beq_iff_eq.1 hfound
    refine ⟨use, huse, ?_⟩
    split at h
    next => cases h
    next hmany =>
      split at h
      next => cases h
      next hbody =>
        split at h
        next => cases h
        next =>
          split at h
          next hone =>
            simp only at h
            split at h
            next => cases h
            next selected hselected =>
              cases h
              obtain ⟨parameters, hparameters, hfind⟩ := Option.bind_eq_some_iff.1 hselected
              obtain ⟨hchild, hcount⟩ := Option.filter_eq_some_iff.1 hparameters
              rw [beq_iff_eq, Node.countTypeRefs_eq_length] at hcount
              obtain ⟨counted, hcounted⟩ := List.length_eq_one_iff.1 hcount
              exact ⟨hparam.symm, rfl, by omega,
                Or.inr ⟨hone, parameters, counted, selected, hchild, hcounted, hfind, rfl⟩⟩
          next hzero =>
            cases h
            exact ⟨hparam.symm, rfl, by omega, Or.inl ⟨by omega, rfl⟩⟩

theorem param_eq_of_removable {ctx : FileContext} {param : Node ctx.tree} {r : Removable ctx.tree}
    (h : removable ctx param = .ok r) : r.param = param := by
  obtain ⟨use, huse, hof⟩ := of_removable h
  have hfound := List.find?_some huse
  rw [hof.param_eq]
  exact beq_iff_eq.1 hfound

/-- **When the right reference is replaced**: for a type parameter that can go and has one reference,
the parameters of its function have exactly one reference that counts, every other node there that
spells the name is hidden, and the search takes the one that counts if and only if what it takes is
not hidden, or, in terms of the text, if and only if nothing before the one that counts spells the
name. -/
theorem selected_eq_counted_iff {ctx : FileContext} {param : Node ctx.tree}
    {use : TypeParameterUse ctx.tree} {r : Removable ctx.tree}
    (huse : ctx.scopes.use? param = some use) (hone : use.signatureRefs = 1)
    (hr : removable ctx param = .ok r) :
    ∃ parameters counted selected,
      use.owner.child? "parameters" = some parameters ∧
      parameters.countTypeRefs use.name = 1 ∧ parameters.references use.name = [counted] ∧
      findReference? parameters use.name = some selected ∧ r.reference = some selected ∧
      (∀ d ∈ parameters.descendants, d.refersTo use.name = true →
        d = counted ∨ parameters.Shadowed d use.name ∨ parameters.BehindToken d) ∧
      (selected = counted ↔
        ¬ parameters.Shadowed selected use.name ∧ ¬ parameters.BehindToken selected) ∧
      (selected = counted ↔
        ∀ d ∈ parameters.descendants.takeWhile (· != counted), d.refersTo use.name = false) := by
  obtain ⟨use', huse', hof⟩ := of_removable hr
  have heq : use' = use := Option.some.inj (huse'.symm.trans huse)
  subst heq
  rcases hof.reference_cases with h | h
  · omega
  · obtain ⟨-, parameters, counted, selected, hchild, hcounted, hfind, hreference⟩ := h
    refine ⟨parameters, counted, selected, hchild, ?_, hcounted, hfind, hreference,
      fun d hd hrefers => counted_or_hidden hcounted hd hrefers,
      eq_counted_iff_not_hidden hcounted hfind, eq_counted_iff_first hcounted hfind⟩
    rw [Node.countTypeRefs_eq_length, hcounted]
    rfl

/-! ## A callback that declares the name anew

The text `function f<T>(g: <T>(x: T) => T, y: T) {}`. The one reference to the outer `T` is the type
of `y`; what is found is the declaration of the inner one. -/

def callbackEntries : Array Tree.Entry :=
  #[⟨none, "program", none, true, 0, 41⟩,
    ⟨some 0, "function_declaration", none, true, 0, 41⟩,
    ⟨some 1, "function", none, false, 0, 8⟩,
    ⟨some 1, "identifier", some "name", true, 9, 10⟩,
    ⟨some 1, "type_parameters", some "type_parameters", true, 10, 13⟩,
    ⟨some 4, "<", none, false, 10, 11⟩,
    ⟨some 4, "type_parameter", none, true, 11, 12⟩,
    ⟨some 6, "type_identifier", some "name", true, 11, 12⟩,
    ⟨some 4, ">", none, false, 12, 13⟩,
    ⟨some 1, "formal_parameters", some "parameters", true, 13, 38⟩,
    ⟨some 9, "(", none, false, 13, 14⟩,
    ⟨some 9, "required_parameter", none, true, 14, 31⟩,
    ⟨some 11, "identifier", some "pattern", true, 14, 15⟩,
    ⟨some 11, "type_annotation", some "type", true, 15, 31⟩,
    ⟨some 13, ":", none, false, 15, 16⟩,
    ⟨some 13, "function_type", none, true, 17, 31⟩,
    ⟨some 15, "type_parameters", some "type_parameters", true, 17, 20⟩,
    ⟨some 16, "<", none, false, 17, 18⟩,
    ⟨some 16, "type_parameter", none, true, 18, 19⟩,
    ⟨some 18, "type_identifier", some "name", true, 18, 19⟩,
    ⟨some 16, ">", none, false, 19, 20⟩,
    ⟨some 15, "formal_parameters", some "parameters", true, 20, 26⟩,
    ⟨some 21, "(", none, false, 20, 21⟩,
    ⟨some 21, "required_parameter", none, true, 21, 25⟩,
    ⟨some 23, "identifier", some "pattern", true, 21, 22⟩,
    ⟨some 23, "type_annotation", some "type", true, 22, 25⟩,
    ⟨some 25, ":", none, false, 22, 23⟩,
    ⟨some 25, "type_identifier", none, true, 24, 25⟩,
    ⟨some 21, ")", none, false, 25, 26⟩,
    ⟨some 15, "=>", none, false, 27, 29⟩,
    ⟨some 15, "type_identifier", some "return_type", true, 30, 31⟩,
    ⟨some 9, ",", none, false, 31, 32⟩,
    ⟨some 9, "required_parameter", none, true, 33, 37⟩,
    ⟨some 32, "identifier", some "pattern", true, 33, 34⟩,
    ⟨some 32, "type_annotation", some "type", true, 34, 37⟩,
    ⟨some 34, ":", none, false, 34, 35⟩,
    ⟨some 34, "type_identifier", none, true, 36, 37⟩,
    ⟨some 9, ")", none, false, 37, 38⟩,
    ⟨some 1, "statement_block", some "body", true, 39, 41⟩,
    ⟨some 38, "\x7b", none, false, 39, 40⟩,
    ⟨some 38, "\x7d", none, false, 40, 41⟩]

def callbackTree : SyntaxTree where
  source := "function f<T>(g: <T>(x: T) => T, y: T) \x7b\x7d"
  entries := callbackEntries
  childIds := Tree.childLists callbackEntries
  coherent := Tree.firstError?_eq_none_iff.1 (by decide +kernel)
  nonempty := by decide
  childIds_eq := rfl

def callbackContext : FileContext := .make "a.ts" callbackTree none

/-- The type parameter of the function. -/
def outerT : Node callbackTree := ⟨6, by decide⟩

/-- The parameters of the function. -/
def callbackParameters : Node callbackTree := ⟨9, by decide⟩

/-- The type of the callback. -/
def callbackType : Node callbackTree := ⟨15, by decide⟩

/-- The name that the callback declares. -/
def innerT : Node callbackTree := ⟨19, by decide⟩

/-- The type of `y`. -/
def typeOfY : Node callbackTree := ⟨36, by decide⟩

/-- What the index has of the type parameter of the function. -/
def outerUse : TypeParameterUse callbackTree where
  owner := ⟨1, by decide⟩
  param := outerT
  name := "T"
  signatureRefs := 1
  returnRefs := 0
  bodyRefs := 0

theorem use?_outerT : callbackContext.scopes.use? outerT = some outerUse :=
  show (ScopeIndex.ofTree callbackTree).use? outerT = some outerUse by decide +kernel

theorem removable_outerT : removable callbackContext outerT = .ok ⟨outerT, "T", some innerT⟩ :=
  toOption_eq_some_iff.1 (by decide +kernel)

/-- The name in the callback is taken for the reference, which is the type of `y`. -/
theorem selected_inside_callback :
    callbackContext.scopes.use? outerT = some outerUse ∧ outerUse.signatureRefs = 1 ∧
    outerUse.owner.child? "parameters" = some callbackParameters ∧
    removable callbackContext outerT = .ok ⟨outerT, "T", some innerT⟩ ∧
    callbackParameters.references "T" = [typeOfY] ∧ innerT ≠ typeOfY ∧
    callbackParameters.Shadowed innerT "T" :=
  ⟨use?_outerT, rfl, by decide +kernel, removable_outerT, by decide +kernel, by decide,
    callbackType, ⟨by decide +kernel, Or.inr (by decide +kernel)⟩, by decide +kernel⟩

theorem selected_eq_counted_iff_callback :
    ∃ parameters counted selected,
      outerUse.owner.child? "parameters" = some parameters ∧
      parameters.countTypeRefs "T" = 1 ∧ parameters.references "T" = [counted] ∧
      findReference? parameters "T" = some selected ∧ some innerT = some selected ∧
      (∀ d ∈ parameters.descendants, d.refersTo "T" = true →
        d = counted ∨ parameters.Shadowed d "T" ∨ parameters.BehindToken d) ∧
      (selected = counted ↔ ¬ parameters.Shadowed selected "T" ∧ ¬ parameters.BehindToken selected) ∧
      (selected = counted ↔
        ∀ d ∈ parameters.descendants.takeWhile (· != counted), d.refersTo "T" = false) :=
  selected_eq_counted_iff use?_outerT rfl removable_outerT

end TypeLint.Catalog
