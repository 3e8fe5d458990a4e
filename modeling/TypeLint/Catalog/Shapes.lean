import TypeLint.Catalog.Syntax

/-!
# Object types and aliases

Rules that suggest a more telling type: a discriminated union for a tag with optional fields, a brand
for an alias of a primitive, `Record` for a lone index signature.
-/

namespace TypeLint.Catalog

open Syntax

/-- The members' node of an interface or of an alias of an object type. -/
def memberList? {t : SyntaxTree} (n : Node t) : Option (Node t) :=
  match n.kind with
  | "interface_declaration" => n.child? "body"
  | "type_alias_declaration" => (n.child? "value").filter (·.kind == "object_type")
  | _ => none

/-- A union of literal types only. -/
def isLiteralUnion {t : SyntaxTree} (type : Node t) : Bool :=
  type.kind == "union_type" && (unionMembers type).all (·.kind == "literal_type")

/-- The number of optional fields from which a tag should discriminate. -/
def minOptionalFields : Nat := 2

/-- Types with a required tag of literals and several optional fields. -/
def findTaggedBag {t : SyntaxTree} (n : Node t) : Option (Captures t) := do
  let members ← memberList? n
  let properties := members.namedChildren.filter (·.kind == "property_signature")
  let optional := properties.countP (·.hasToken "?")
  if optional < minOptionalFields then none
  else
    let tag ← properties.find? fun p =>
      !p.hasToken "?" && (declaredType? p).any isLiteralUnion
    let name ← n.child? "name"
    let tagName ← tag.child? "name"
    return (((Captures.empty.bindNode "name" name).bindNode "span" name).bindNode
      "tag" tagName).bindText "optional" (toString optional)

/-- A tag beside optional fields does not say which fields go with which tag. -/
def preferDiscriminatedUnion : Rule where
  name := "prefer-discriminated-union"
  code := "TY014"
  severity := .suggestion
  description := "Suggests a discriminated union for a literal tag with optional fields"
  message := "`{name}` pairs tag `{tag}` with {optional} optional fields"
  help := some "split it into one object type per `{tag}` value and union them"
  matcher := .custom fun _ n => .ok (findTaggedBag n)

/-- The primitives that are worth a brand. -/
def isBrandable {t : SyntaxTree} (n : Node t) : Bool :=
  n.kind == "predefined_type" && ["string", "number", "bigint"].contains n.text

/-- The type that carries a brand; the braces of the object type are doubled, as templates ask. -/
def brandTemplate : String :=
  "{primitive} & \x7b\x7b readonly __brand: \"" ++ "{name}" ++ "\" \x7d\x7d"

/-- An alias of a primitive is only another word for it. -/
def preferBrandedPrimitive : Rule where
  name := "prefer-branded-primitive"
  code := "TY015"
  severity := .suggestion
  description := "Suggests branding type aliases of bare primitives"
  message := "`{name}` is interchangeable with any `{primitive}`"
  help := some "brand it so only values of this domain are accepted"
  matcher := .pattern <|
    (Pattern.kind "type_alias_declaration")
      |>.andField "name" (Pattern.any.as "name")
      |>.andField "value" ((Pattern.holds isBrandable).as "primitive")
      |>.andHolds fun n => (n.child? "type_parameters").isNone
  fixer := some (.replace "Brand `{name}`" "primitive" brandTemplate)

/-- An object type of one member that is not the body of an interface. -/
def isSingleMember {t : SyntaxTree} (object : Node t) : Bool :=
  object.parent.map (·.kind) != some "interface_declaration" &&
    object.significantChildren.length == 1

/-- A lone index signature is what `Record` is for. -/
def preferRecordType : Rule where
  name := "prefer-record-type"
  code := "TY023"
  severity := .suggestion
  description := "Prefers `Record<K, V>` to an object type with one index signature"
  message := "index signature can be written as `Record<{key}, {value}>`"
  help := some "use the `Record` utility type"
  matcher := .pattern <|
    ((Pattern.kind "object_type").andHolds isSingleMember).andChildren (.exactly 1)
      ((Pattern.kind "index_signature")
        |>.andNoToken "readonly"
        |>.andField "index_type"
          (((Pattern.kind "predefined_type").andHolds fun k =>
            ["string", "number"].contains k.text).as "key")
        |>.andField "type"
          ((Pattern.kind "type_annotation").andChildren (.exactly 1) (Pattern.any.as "value")))
  fixer := some (.replace "Replace with `Record<{key}, {value}>`" "node" "Record<{key}, {value}>")

end TypeLint.Catalog
