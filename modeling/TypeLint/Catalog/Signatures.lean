import TypeLint.Catalog.Syntax

/-!
# Function signatures

Rules on return types and on methods declared by shorthand.
-/

namespace TypeLint.Catalog

open Syntax

/-- Functions of a file's own whose return type is annotated. -/
def findAnnotatedReturn {t : SyntaxTree} (n : Node t) : Option (Captures t) := do
  if !n.isOneOf ["function_declaration", "function_expression", "arrow_function"]
      || isExportedDeclaration n || (n.child? "body").isNone then
    none
  else
    let clause ← n.child? "return_type"
    let type ← annotatedType? clause
    return (Captures.empty.bindNode "span" clause).bindNode "type" type

/-- The annotation is redundant when it is the inferred type. -/
def confirmRedundantReturn (ctx : FileContext) (m : Match ctx.tree) : Verdict :=
  match m.captures.node? "type" with
  | none => .unconfirmed
  | some annotated =>
    match ctx.typeOf? m.node with
    | none => .unconfirmed
    | some inferred => if inferred.agreesWith annotated.text then .confirmed else .suppressed

/-- A local helper need not repeat what is inferred. -/
def noRedundantReturnType : Rule where
  name := "no-redundant-return-type"
  code := "TY009"
  severity := .suggestion
  description := "Flags return type annotations equal to the inferred type"
  message := "return type `{type}` is what the compiler infers"
  help := some "remove the annotation"
  matcher := .custom fun _ n => .ok (findAnnotatedReturn n)
  confirm := some fun ctx m => .ok (confirmRedundantReturn ctx m)
  fixer := some (.template "Remove the return type annotation" [.delete "span"] .medium)
  requiresTypeInfo := true

/-- The name under which a function is exported: its own, or that of the variable it is the value
of. -/
def exportedName? {t : SyntaxTree} (n : Node t) : Option (Node t) :=
  match n.kind with
  | "function_declaration" => if isExportedDeclaration n then n.child? "name" else none
  | "arrow_function" => exportedVariable n
  | "function_expression" => exportedVariable n
  | _ => none
where
  /-- The name of the exported variable whose value the node is. -/
  exportedVariable (n : Node t) : Option (Node t) := do
    let declarator ← n.parent.filter (·.kind == "variable_declarator")
    if declarator.child? "value" != some n || !isExportedDeclaration declarator then none
    else declarator.child? "name"

/-- Exported functions with a body and no return type. -/
def findUnannotatedExport {t : SyntaxTree} (n : Node t) : Option (Captures t) := do
  if (n.child? "return_type").isSome || (n.child? "body").isNone then none
  else
    let name ← exportedName? n
    return (Captures.empty.bindNode "name" name).bindNode "span" name

/-- An exported signature is a promise to every importer. -/
def requireExportedReturnType : Rule where
  name := "require-exported-return-type"
  code := "TY010"
  severity := .suggestion
  description := "Requires an explicit return type on exported functions"
  message := "exported function `{name}` has no return type annotation"
  help := some "annotate the return type so the public contract is explicit"
  matcher := .custom fun _ n => .ok (findUnannotatedExport n)

/-- The number of members from which an inline result type should have a name. -/
def minResultMembers : Nat := 2

/-- Functions whose return type is an inline object type of several members. -/
def findInlineResult {t : SyntaxTree} (n : Node t) : Option (Captures t) := do
  if !n.isFunction then none
  else
    let clause ← n.child? "return_type"
    let type ← annotatedType? clause
    let count := type.significantChildren.length
    if type.kind == "object_type" && minResultMembers ≤ count then
      return (Captures.empty.bindNode "span" type).bindText "count" (toString count)
    else none

/-- Callers can only refer to a type that has a name. -/
def preferNamedResultType : Rule where
  name := "prefer-named-result-type"
  code := "TY011"
  severity := .suggestion
  description := "Prefers a named result type over an inline object return type"
  message := "inline return type with {count} members"
  help := some "extract it into a named `type` or `interface` so callers can refer to it"
  matcher := .custom fun _ n => .ok (findInlineResult n)

/-- Methods of classes are checked the same way in either spelling. -/
def confirmMethodShorthand {t : SyntaxTree} (m : Match t) : Verdict :=
  if m.node.parent.any (·.kind == "class_body") then .suppressed else .confirmed

/-- Another method signature beside the node has the same name. -/
def isOverloaded {t : SyntaxTree} (n : Node t) (name : String) : Bool :=
  n.parent.any fun body =>
    body.namedChildren.any fun s =>
      s.kind == "method_signature" && s != n && (s.child? "name").any (·.text == name)

/-- The method as a property of function type. -/
def fixMethodShorthand (ctx : FileContext) (m : Match ctx.tree) : FixOutcome :=
  match m.captures.node? "name" with
  | none => .manual "method not found"
  | some name =>
    if ["get", "set", "*", "async"].any m.node.hasToken then
      .manual "accessor or modified method"
    else if isOverloaded m.node name.text then .manual "overloaded method"
    else
      match (m.node.child? "return_type").bind annotatedType?, m.node.child? "parameters" with
      | none, _ => .manual "method has no return type"
      | some _, none => .manual "method has no parameter list"
      | some result, some parameters =>
        let optional := if m.node.hasToken "?" then "?" else ""
        let typeParameters := ((m.node.child? "type_parameters").map (·.text)).getD ""
        let text := name.text ++ optional ++ ": " ++ typeParameters ++ parameters.text ++ " => "
          ++ result.text
        .propose ("Declare `" ++ name.text ++ "` as a function property")
          [.replace ctx.source m.node.span text]

/-- The parameters of a method declared by shorthand are compared in both directions. -/
def preferFunctionProperty : Rule where
  name := "prefer-function-property"
  code := "TY013"
  severity := .warning
  description := "Prefers function properties to method shorthand in object types"
  message := "method shorthand `{name}` is checked bivariantly"
  help := some "declare it as a property with a function type"
  matcher := .pattern ((Pattern.kind "method_signature").andField "name" (Pattern.any.as "name"))
  confirm := some fun _ m => .ok (confirmMethodShorthand m)
  fixer := some (.custom fun ctx m => .ok (fixMethodShorthand ctx m))

end TypeLint.Catalog
