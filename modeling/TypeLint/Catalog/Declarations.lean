import TypeLint.Catalog.Syntax

/-!
# Declarations

Rules on interfaces, type aliases and namespaces as declarations: names that merge by accident,
interfaces without members, namespaces that exist at run time. What only describes code that exists
elsewhere is left alone.
-/

namespace TypeLint.Catalog

open Syntax

/-- The interfaces and type aliases that share name and scope with the node. -/
def typeSiblings (ctx : FileContext) (n : Node ctx.tree) : List (Declaration ctx.tree) :=
  (ctx.scopes.siblings n).filter (·.kind.isType)

/-- Interfaces and type aliases that are not the first of their name in their scope. -/
def findMerging (ctx : FileContext) (n : Node ctx.tree) : Option (Captures ctx.tree) := do
  let declaration ← ctx.scopes.declaration? n
  if !declaration.kind.isType then none
  else
    let siblings := typeSiblings ctx n
    let first ← siblings.head?
    if siblings.length < 2 || first.node == n then none
    else
      let name ← n.child? "name"
      return (Captures.empty.bindNode "name" name).bindNode "span" name

/-- Merging is meant in declaration files and in ambient blocks. -/
def confirmMerging (ctx : FileContext) (m : Match ctx.tree) : Verdict :=
  if ctx.isDeclarationFile then .suppressed
  else if (typeSiblings ctx m.node).all (·.ambient) then .suppressed
  else .confirmed

/-- Two interfaces of one name become one type without a word. -/
def noAccidentalDeclarationMerging : Rule where
  name := "no-accidental-declaration-merging"
  code := "TY007"
  severity := .warning
  description := "Flags interfaces and type aliases that redeclare a name in the same scope"
  message := "`{name}` is already declared in this scope and will merge with it"
  help := some "rename one of the declarations or combine them into one"
  matcher := .custom fun ctx n => .ok (findMerging ctx n)
  confirm := some fun ctx m => .ok (confirmMerging ctx m)

/-- Empty interfaces are meant where they are ambient or take part in merging. -/
def confirmEmptyInterface (ctx : FileContext) (m : Match ctx.tree) : Verdict :=
  if ctx.isDeclarationFile || m.node.inAmbientContext then .suppressed
  else if 1 < (ctx.scopes.siblings m.node).length then .suppressed
  else .confirmed

/-- The texts of the types an interface extends. -/
def extendedTypes {t : SyntaxTree} (n : Node t) : List String :=
  ((n.namedChildren.filter (·.kind == "extends_type_clause")).flatMap
    (·.childrenUnder "type")).map (·.text)

/-- An interface that only extends is another name for what it extends. An interface that does not
even extend has no better spelling of the same meaning. -/
def fixEmptyInterface (ctx : FileContext) (m : Match ctx.tree) : FixOutcome :=
  match m.captures.node? "name", m.node.child? "body" with
  | some name, some body =>
    let bases := extendedTypes m.node
    if body.children.any (·.kind == "comment") then .manual "body holds comments"
    else if bases.isEmpty then .manual "an empty interface accepts any non-nullish value"
    else
      let parameters := ((m.node.child? "type_parameters").map (·.text)).getD ""
      let text := "type " ++ name.text ++ parameters ++ " = " ++ " & ".intercalate bases ++ ";"
      .propose ("Replace interface `" ++ name.text ++ "` with a type alias")
        [.replace ctx.source m.node.span text]
  | _, _ => .manual "interface not found"

/-- An interface without members takes almost any value. -/
def noEmptyInterface : Rule where
  name := "no-empty-interface"
  code := "TY016"
  severity := .suggestion
  description := "Replaces empty interfaces with type aliases"
  message := "interface `{name}` declares no members"
  help := some "use a type alias"
  matcher := .pattern <|
    (Pattern.kind "interface_declaration")
      |>.andField "name" (Pattern.any.as "name")
      |>.andField "body" (Pattern.any.andChildren .none .any)
  confirm := some fun ctx m => .ok (confirmEmptyInterface ctx m)
  fixer := some (.custom fun ctx m => .ok (fixEmptyInterface ctx m))

/-- Namespaces that describe existing globals are fine. -/
def confirmNamespace (ctx : FileContext) (m : Match ctx.tree) : Verdict :=
  if ctx.isDeclarationFile || m.node.inAmbientContext then .suppressed else .confirmed

/-- A module has its own scope already. -/
def noNamespace : Rule where
  name := "no-namespace"
  code := "TY021"
  severity := .warning
  description := "Disallows runtime namespaces"
  message := "namespace `{name}` emits a runtime object"
  help := some "split the members into a module and use ES imports"
  matcher := .pattern
    ((Pattern.kind "internal_module").andField "name" ((Pattern.any.as "name").as "span"))
  confirm := some fun ctx m => .ok (confirmNamespace ctx m)

end TypeLint.Catalog
