import TypeLint.Catalog.Syntax

/-!
# Types that say too little

Rules against types that switch checking off or describe nothing: `any`, `Function`, `object` and
the boxed primitives.
-/

namespace TypeLint.Catalog

open Syntax

/-- `any` switches off checking for every value it touches; `unknown` keeps the value closed until
it is narrowed. -/
def noExplicitAny : Rule where
  name := "no-explicit-any"
  code := "TY002"
  severity := .warning
  description := "Disallows the `any` type"
  message := "`any` disables type checking"
  help := some "use `unknown` and narrow the value before use"
  matcher := .pattern (.andText (.kind "predefined_type") "any")
  fixer := some (.replace "Replace `any` with `unknown`" "node" "unknown")

/-- The signature that accepts every call. -/
def anySignature : String := "(...args: unknown[]) => unknown"

/-- Spells out the signature, in parentheses where it needs them. -/
def fixFunctionType (ctx : FileContext) (m : Match ctx.tree) : FixOutcome :=
  let text := if isTight m.node then "(" ++ anySignature ++ ")" else anySignature
  .propose "Replace `Function` with an explicit signature"
    [.replace ctx.source m.node.span text]

/-- `Function` takes any call and makes its result `any`. -/
def noFunctionType : Rule where
  name := "no-function-type"
  code := "TY005"
  severity := .warning
  description := "Disallows the `Function` type"
  message := "`Function` makes every call return `any`"
  help := some "spell out the signature, e.g. `(...args: unknown[]) => unknown`"
  matcher := .custom fun _ n => .ok (if isTypeReference n "Function" then some .empty else none)
  fixer := some (.custom fun ctx m => .ok (fixFunctionType ctx m))

/-- `object` and `Object` say nothing about keys. -/
def noObjectType : Rule where
  name := "no-object-type"
  code := "TY006"
  severity := .warning
  description := "Disallows the `object` and `Object` types"
  message := "`{type}` says nothing about the value's keys"
  help := some "use `Record<string, unknown>` or a specific object type"
  matcher := .pattern (.anyOf [
    (Pattern.andText (.kind "predefined_type") "object").as "type",
    (Pattern.holds fun n => isTypeReference n "Object").as "type"])
  fixer := some (.replace "Replace `{type}` with `Record<string, unknown>`" "node"
    "Record<string, unknown>")

/-- The object types that box a primitive. -/
def wrapperTypes : List String := ["String", "Number", "Boolean", "Symbol", "BigInt"]

/-- A reference to a boxed primitive, with the primitive's name. -/
def findWrapper {t : SyntaxTree} (n : Node t) : Option (Captures t) :=
  (wrapperTypes.find? (isTypeReference n)).map fun wrapper =>
    (Captures.empty.bindNode "wrapper" n).bindText "primitive" (Text.lowerAscii wrapper)

/-- Puts the primitive in place of its box. -/
def fixWrapper (ctx : FileContext) (m : Match ctx.tree) : FixOutcome :=
  match m.captures.text? "primitive" with
  | none => .manual "type reference not found"
  | some primitive =>
    .propose ("Replace `" ++ m.node.text ++ "` with `" ++ primitive ++ "`")
      [.replace ctx.source m.node.span primitive]

/-- `String` is the boxed object, not the primitive. -/
def noWrapperObjectTypes : Rule where
  name := "no-wrapper-object-types"
  code := "TY019"
  severity := .warning
  description := "Disallows wrapper object types for primitives"
  message := "`{wrapper}` is the boxed object type, not the primitive"
  help := some "use `{primitive}`"
  matcher := .custom fun _ n => .ok (findWrapper n)
  fixer := some (.custom fun ctx m => .ok (fixWrapper ctx m))

end TypeLint.Catalog
