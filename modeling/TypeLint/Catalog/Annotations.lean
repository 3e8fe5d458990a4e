import TypeLint.Catalog.Syntax

/-!
# Annotations on values

Rules on annotations that say less than the value itself, or only repeat it.
-/

namespace TypeLint.Catalog

open Syntax

/-- `Record` with a key type that takes any key, or an object type of one index signature. -/
def isIndexType {t : SyntaxTree} (type : Node t) : Bool :=
  match type.kind with
  | "generic_type" =>
    (type.child? "name").any (·.text == "Record") &&
      ((type.child? "type_arguments").bind Node.firstNamed?).any fun key =>
        ["string", "number", "PropertyKey"].contains key.text
  | "object_type" =>
    match type.significantChildren with
    | [member] => member.kind == "index_signature"
    | _ => false
  | _ => false

/-- The object literal has entries, and the key of each is written out. -/
def hasLiteralKeys {t : SyntaxTree} (object : Node t) : Bool :=
  let pairs := object.significantChildren
  !pairs.isEmpty && pairs.all fun p =>
    p.kind == "pair" &&
      (p.child? "key").any (·.isOneOf ["property_identifier", "string", "number"])

/-- An index type on a constant object literal forgets its keys; `satisfies` checks as much and
forgets nothing. -/
def preferSatisfies : Rule where
  name := "prefer-satisfies"
  code := "TY008"
  severity := .suggestion
  description := "Prefers `satisfies` to annotating a literal with an index type"
  message := "annotation `{type}` widens the keys of `{name}`"
  help := some "check the literal with `satisfies {type}` and keep its inferred keys"
  matcher := .pattern <|
    (Pattern.kind "variable_declarator")
      |>.andField "name" (Pattern.any.as "name")
      |>.andParent (Pattern.andToken (.kind "lexical_declaration") "const")
      |>.andField "type"
        (((Pattern.kind "type_annotation").andChildren (.exactly 1)
          ((Pattern.holds isIndexType).as "type")).as "annotation")
      |>.andField "value" (((Pattern.kind "object").andHolds hasLiteralKeys).as "value")
  fixer := some (.template "Move `{type}` into a `satisfies` clause"
    [.delete "annotation", .insertAfter "value" " satisfies {type}"] .high)

/-- The initializer is a literal of the annotated primitive type. A declarator counts only in a
`let` or `const`. -/
def isInferrable {t : SyntaxTree} (n : Node t) : Bool :=
  if n.kind == "variable_declarator" && n.parent.map (·.kind) != some "lexical_declaration" then
    false
  else
    match declaredType? n, n.child? "value" with
    | some type, some value => literalPrimitive? value == some type.text
    | _, _ => false

/-- The compiler knows the type of a literal. -/
def noInferrableTypeAnnotation : Rule where
  name := "no-inferrable-type-annotation"
  code := "TY022"
  severity := .suggestion
  description := "Removes annotations inferred from literal initializers"
  message := "type `{type}` is inferred from the initializer"
  help := some "remove the annotation"
  matcher := .pattern <|
    (Pattern.kinds ["variable_declarator", "required_parameter"])
      |>.andField "type"
        ((((Pattern.kind "type_annotation").andChildren (.exactly 1)
          ((Pattern.kind "predefined_type").as "type")).as "annotation").as "span")
      |>.andHolds isInferrable
  fixer := some (.template "Remove the `{type}` annotation" [.delete "annotation"] .high)

end TypeLint.Catalog
