import TypeLint.Rule.Basic

/-!
# Questions about TypeScript syntax

What several rules ask about a node: the type in an annotation, the members of a union, whether an
expression is a literal, and the like.
-/

namespace TypeLint.Syntax

variable {t : SyntaxTree}

/-- The parents under which a function or union type needs parentheses. -/
def tightTypeParents : List String :=
  ["union_type", "intersection_type", "array_type", "readonly_type", "lookup_type"]

/-- The node stands where a looser type needs parentheses. -/
def isTight (n : Node t) : Bool := n.parent.any (·.isOneOf tightTypeParents)

/-- The type inside a type annotation. -/
def annotatedType? (clause : Node t) : Option (Node t) :=
  if clause.kind == "type_annotation" then clause.significantChildren.head? else none

/-- The type that a declarator or a parameter is annotated with. -/
def declaredType? (declarator : Node t) : Option (Node t) :=
  (declarator.child? "type").bind annotatedType?

/-- The declaration that holds the node is exported: an `export` stands at the node or above it,
before any block, class body or the file itself. -/
def isExportedDeclaration (n : Node t) : Bool :=
  ((n :: n.ancestors).takeWhile (!·.isOneOf ["statement_block", "program", "class_body"])).any
    (·.kind == "export_statement")

/-- Where the search for union members goes: into unions only. -/
def unionParts (n : Node t) : List (Node t) :=
  if n.kind == "union_type" then n.significantChildren else []

/-- The members of a union of unions, left to right; any other type is its only member. -/
def unionMembers (n : Node t) : List (Node t) :=
  (n.reach unionParts).filter (·.kind != "union_type")

/-- The primitive type of a literal, a negated number included. -/
def literalPrimitive? (e : Node t) : Option String :=
  match e.kind with
  | "string" => some "string"
  | "template_string" =>
    if e.namedChildren.any (·.kind == "template_substitution") then none else some "string"
  | "number" => some "number"
  | "true" => some "boolean"
  | "false" => some "boolean"
  | "unary_expression" =>
    if e.hasToken "-" then
      ((e.child? "argument").filter (·.kind == "number")).map fun _ => "number"
    else none
  | _ => none

/-- A plain literal: a string, a number or a truth value. -/
def isLiteral (e : Node t) : Bool := e.isOneOf ["string", "number", "true", "false"]

/-- The blanks at the start of the line that holds the offset; there is no such line when the offset
lies outside the text or inside a character. -/
def indentAt? (source : String) (offset : Nat) : Option String := do
  let front ← Text.slice? source 0 offset
  let back ← Text.slice? source offset source.utf8ByteSize
  let line := (front.toList.reverse.takeWhile (· != '\n')).reverse ++ back.toList
  return String.ofList (line.takeWhile fun c => c = ' ' || c = '\t')

/-- The operand of an `as` expression and its target type; `as const` has no target type. -/
def asParts? (n : Node t) : Option (Node t × Option (Node t)) :=
  if n.kind == "as_expression" then
    match n.significantChildren with
    | [] => none
    | operand :: rest => some (operand, rest.head?)
  else none

/-- The node refers to the type of this name: it does not declare it, and the name is not
qualified. -/
def isTypeReference (n : Node t) (name : String) : Bool :=
  n.kind == "type_identifier" && n.text == name && n.field != some "name" &&
    n.parent.any (·.kind != "nested_type_identifier")

end TypeLint.Syntax
