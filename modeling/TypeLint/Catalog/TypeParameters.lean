import TypeLint.Catalog.Syntax

/-!
# Type parameters that relate nothing

A type parameter earns its place by linking two positions of a signature. One that appears once can
be replaced by its constraint, and one that appears nowhere can go. The first parameter of a list
that can go takes the others that can go with it, in one fix: `removals` deletes them from the list
so that a well-formed list is left, and every reference is replaced by the constraint.
-/

namespace TypeLint.Catalog

open Syntax

/-- Type parameters used at most once in their signature. -/
def findUnneeded (ctx : FileContext) (n : Node ctx.tree) : Option (Captures ctx.tree) := do
  if n.kind != "type_parameter" then none
  else
    let use ← ctx.scopes.use? n
    let uses ← match use.signatureRefs with
      | 0 => some "nowhere"
      | 1 => some "once"
      | _ => none
    let name ← n.child? "name"
    return (Captures.empty.bindNode "name" name).bindText "uses" uses

/-- A type parameter that can go, with its one reference if it has one. -/
structure Removable (t : SyntaxTree) where
  param : Node t
  name : String
  reference : Option (Node t)

/-- The first reference to the name at a node or below it. -/
def findReference? {t : SyntaxTree} (root : Node t) (name : String) : Option (Node t) :=
  root.descendants.find? (·.refersTo name)

/-- A type parameter can go when the body and the return type do not use it and nothing but the
parameters do. -/
def removable (ctx : FileContext) (param : Node ctx.tree) : Except String (Removable ctx.tree) :=
  match ctx.scopes.use? param with
  | none => .error "type parameter not indexed"
  | some use =>
    if 1 < use.signatureRefs then .error "type parameter links two positions"
    else if 0 < use.bodyRefs then .error "type parameter is also used in the body"
    else if 0 < use.returnRefs then .error "type parameter only fixes the return type"
    else if use.signatureRefs = 1 then
      let parameters := (use.owner.child? "parameters").filter (·.countTypeRefs use.name == 1)
      match parameters.bind (findReference? · use.name) with
      | none => .error "type parameter is referenced by another type parameter"
      | some reference => .ok ⟨param, use.name, some reference⟩
    else .ok ⟨param, use.name, none⟩

/-- The text in place of a reference: the constraint, in parentheses where it needs them, or
`unknown`. -/
def replacementFor {t : SyntaxTree} (param reference : Node t) : String :=
  match (param.child? "constraint").bind (·.significantChildren.head?) with
  | none => "unknown"
  | some constraint =>
    let loose := constraint.isOneOf
      ["union_type", "intersection_type", "function_type", "conditional_type"]
    if loose && isTight reference then "(" ++ constraint.text ++ ")" else constraint.text

/-- The span to delete for the parameter at position `i`: up to the next parameter if a kept one
follows, else from the end of the one before. -/
def removalSpan (spans : List Span) (lastKept i : Nat) (span : Span) : Except Fault Span :=
  if i < lastKept then
    match spans[i + 1]? with
    | some next => .ok (.between span.start next.start)
    | none => .error ⟨"no parameter after the last"⟩
  else
    match i with
    | 0 => .error ⟨"no parameter before the first"⟩
    | before + 1 =>
      match spans[before]? with
      | some previous => .ok (.between previous.stop span.stop)
      | none => .error ⟨"no parameter before the first"⟩

/-- The spans to delete so that only the kept parameters remain, with one separator between each two
of them; when nothing is kept the whole list goes. -/
def removalSpans (list : Span) (spans : List Span) (removed : List Bool) :
    Except Fault (List Span) :=
  match ((removed.zipIdx.filter (!·.1)).map (·.2)).getLast? with
  | none => .ok [list]
  | some lastKept =>
    (((spans.zip removed).zipIdx.filter (·.1.2))).mapM fun ((span, _), i) =>
      removalSpan spans lastKept i span

/-- The deletions that take the removed parameters out of their list. -/
def removals (source : String) (list : Span) (spans : List Span) (removed : List Bool) :
    Except Fault (List Edit) :=
  (removalSpans list spans removed).map (·.map (Edit.delete source))

/-- Inlines every parameter of the list that can go, on behalf of the first of them. -/
def fixUnneeded (ctx : FileContext) (m : Match ctx.tree) : Except Fault FixOutcome :=
  let param := m.node
  match removable ctx param with
  | .error reason => .ok (.manual reason)
  | .ok _ =>
    match param.parent with
    | none => .ok (.manual "type parameter list not found")
    | some list =>
      let params := list.typeParameters
      let group := params.filterMap fun p => (removable ctx p).toOption
      -- only the first parameter that can go carries the fix
      match group.head?.filter (·.param != param) with
      | some lead => .ok (.manual ("inlined together with `" ++ lead.name ++ "`"))
      | none => do
        let removed := params.map fun p => group.any (·.param == p)
        let deletions ← removals ctx.source list.span (params.map (·.span)) removed
        let inlined := group.filterMap fun r => r.reference.map fun reference =>
          Edit.replace ctx.source reference.span (replacementFor r.param reference)
        let names := ", ".intercalate (group.map fun r => "`" ++ r.name ++ "`")
        return .propose ("Inline type parameter " ++ names) (deletions ++ inlined)

/-- A type parameter that links nothing is noise, or an unchecked cast. -/
def noUnnecessaryTypeParameter : Rule where
  name := "no-unnecessary-type-parameter"
  code := "TY012"
  severity := .suggestion
  description := "Flags type parameters referenced at most once in their signature"
  message := "type parameter `{name}` is used {uses} in the signature"
  help := some "replace it with its constraint, or link it to a second position"
  matcher := .custom fun ctx n => .ok (findUnneeded ctx n)
  fixer := some (.custom fixUnneeded)

end TypeLint.Catalog
