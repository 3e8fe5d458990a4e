import TypeLint.Catalog.Syntax

/-!
# Assertions

Rules on what the compiler is told to believe: `value!`, `value as T`, `<T>value` and assertions
through `unknown`.
-/

namespace TypeLint.Catalog

open Syntax

/-- `value!` hides that the value may be missing. -/
def noNonNullAssertion : Rule where
  name := "no-non-null-assertion"
  code := "TY003"
  severity := .warning
  description := "Disallows the non-null assertion operator"
  message := "non-null assertion hides a possible `null` or `undefined`"
  help := some "narrow with a check, optional chaining or a default value"
  matcher := .pattern (.kind "non_null_expression")

/-- A literal asserted to be the type of that very literal. -/
def isSelfLiteralAssertion {t : SyntaxTree} (operand type : Node t) : Bool :=
  type.kind == "literal_type" && isLiteral operand && type.text == operand.text

/-- `unknown` and `any`: the way out in the first half of a double assertion. -/
def isEscapeType {t : SyntaxTree} (type : Node t) : Bool :=
  type.kind == "predefined_type" && (type.text == "unknown" || type.text == "any")

/-- The operand and the type of an assertion in either spelling. -/
def assertion? {t : SyntaxTree} (n : Node t) : Option (Node t × Node t) :=
  match n.kind with
  | "as_expression" => do
    let (operand, type) ← asParts? n
    return (operand, ← type)
  | "type_assertion" =>
    match n.significantChildren with
    | [] => none
    | arguments :: rest => do
      let type ← arguments.firstNamed?
      return (← rest.head?, type)
  | _ => none

/-- Assertions that narrow without a check. Widening to `unknown` is fine; double assertions and a
literal asserted to itself are the business of other rules. -/
def findCasualAssertion {t : SyntaxTree} (n : Node t) : Option (Captures t) := do
  let (operand, type) ← assertion? n
  let double := (asParts? operand).any fun (_, inner) => inner.any isEscapeType
  if (type.kind == "predefined_type" && type.text == "unknown") || double
      || isSelfLiteralAssertion operand type then
    none
  else
    return (Captures.empty.bindNode "operand" operand).bindNode "type" type

/-- The places where `x satisfies T` needs no parentheses. -/
def standsAlone {t : SyntaxTree} (n : Node t) : Bool :=
  n.parent.any fun p =>
    match p.kind with
    | "variable_declarator" => n.field == some "value"
    | "arguments" => true
    | "return_statement" => true
    | "parenthesized_expression" => true
    | _ => false

/-- A literal is checked by `satisfies` instead; anything else needs a type guard. -/
def fixCasualAssertion (ctx : FileContext) (m : Match ctx.tree) : FixOutcome :=
  match m.captures.node? "operand", m.captures.node? "type" with
  | some operand, some type =>
    let description := "Check the literal with `satisfies " ++ type.text ++ "`"
    if !operand.isOneOf ["object", "array"] then .manual "narrowing needs a type guard"
    else if m.node.kind == "as_expression" then
      match m.node.token? "as" with
      | none => .manual "assertion keyword not found"
      | some keyword =>
        .propose description [.replace ctx.source keyword.span "satisfies"]
    else
      let checked := operand.text ++ " satisfies " ++ type.text
      let text := if standsAlone m.node then checked else "(" ++ checked ++ ")"
      .propose description [.replace ctx.source m.node.span text]
  | _, _ => .manual "assertion not found"

/-- An assertion is believed, not checked. -/
def noCasualTypeAssertion : Rule where
  name := "no-casual-type-assertion"
  code := "TY004"
  severity := .warning
  description := "Flags unchecked type assertions"
  message := "assertion to `{type}` is not checked by the compiler"
  help := some "use `satisfies` for literals or narrow with a type guard"
  matcher := .custom fun _ n => .ok (findCasualAssertion n)
  fixer := some (.custom fun ctx m => .ok (fixCasualAssertion ctx m))

/-- An assertion of an assertion to `unknown` or `any`. -/
def findDoubleAssertion {t : SyntaxTree} (n : Node t) : Option (Captures t) := do
  let (operand, type) ← asParts? n
  let (_, inner) ← asParts? operand
  let escape ← inner.filter isEscapeType
  return (Captures.empty.bindNode "escape" escape).bindNode "type" (← type)

/-- Two assertions in a row allow anything. -/
def noDoubleAssertion : Rule where
  name := "no-double-assertion"
  code := "TY017"
  severity := .warning
  description := "Disallows asserting through `unknown` or `any`"
  message := "double assertion through `{escape}` to `{type}` bypasses type checking"
  help := some "validate the value at runtime or fix the source type"
  matcher := .custom fun _ n => .ok (findDoubleAssertion n)

/-- A literal asserted to its own type. -/
def findSelfAssertion {t : SyntaxTree} (n : Node t) : Option (Captures t) := do
  let (operand, type) ← asParts? n
  let type ← type
  if isSelfLiteralAssertion operand type then
    return (Captures.empty.bindNode "operand" operand).bindNode "type" type
  else none

/-- `as const` says the same without repeating the literal. -/
def preferAsConst : Rule where
  name := "prefer-as-const"
  code := "TY018"
  severity := .suggestion
  description := "Prefers `as const` to asserting a literal to itself"
  message := "`{operand} as {type}` repeats the literal"
  help := some "use `as const`"
  matcher := .custom fun _ n => .ok (findSelfAssertion n)
  fixer := some (.replace "Replace with `as const`" "type" "const")

end TypeLint.Catalog
