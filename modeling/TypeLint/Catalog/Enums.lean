import TypeLint.Catalog.Syntax

/-!
# Enums

An enum is replaced by a constant object and the union of its values:

    const Status = { Active: "active" } as const;
    type Status = (typeof Status)[keyof typeof Status];

`enumMembers` computes the entries of the object. Every member keeps its value: a written value is
copied, and a member without one counts on from the member before it.
-/

namespace TypeLint.Catalog

open Syntax

/-- The values of an enum are all texts or all numbers. -/
inductive EnumValueKind where
  | text
  | number
  deriving DecidableEq, Repr

/-- The greatest value that a member can count to, one less than two to the power sixty-three. -/
def maxEnumValue : Int := 9223372036854775807

/-- The smallest value that a member can have. -/
def minEnumValue : Int := -9223372036854775808

/-- The number that decimal digits spell; there must be at least one digit. -/
def digitsValue? (cs : List Char) : Option Nat :=
  if cs.isEmpty || !cs.all Text.isDigit then none
  else some (cs.foldl (fun n c => n * 10 + (c.toNat - '0'.toNat)) 0)

/-- A decimal integer of 64 bits, with an optional sign. -/
def decimalValue? (text : String) : Option Int := do
  let value : Int ← match text.toList with
    | '-' :: digits => (digitsValue? digits).map fun n => -(n : Int)
    | '+' :: digits => (digitsValue? digits).map fun n => (n : Int)
    | digits => (digitsValue? digits).map fun n => (n : Int)
  if minEnumValue ≤ value ∧ value ≤ maxEnumValue then some value else none

/-- The next value to count to, while there is one. -/
def succValue? (n : Int) : Option Int := if n < maxEnumValue then some (n + 1) else none

/-- One member: its key, its value, what kind of value it is, and the value that a next member
without one would have. -/
structure EnumMember (t : SyntaxTree) where
  key : Node t
  value : String
  kind : EnumValueKind
  next : Option Int

/-- Reads one member, given the value it has if none is written. -/
def enumMember {t : SyntaxTree} (next : Option Int) (member : Node t) :
    Except String (EnumMember t) :=
  if member.kind == "enum_assignment" then
    match member.child? "name", member.child? "value" with
    | some key, some value =>
      match literalPrimitive? value with
      | some "string" =>
        if value.kind == "string" then
          .ok { key, value := value.text, kind := .text, next := none }
        else .error "computed enum member"
      | some "number" =>
        .ok { key, value := value.text, kind := .number
              next := (decimalValue? value.text).bind succValue? }
      | _ => .error "computed enum member"
    | _, _ => .error "malformed member"
  else
    match next with
    | none => .error "implicit member value cannot be computed"
    | some n =>
      .ok { key := member, value := toString n, kind := .number, next := succValue? n }

/-- Reads members in order, given the value the next one counts to and the kind of those before. -/
def enumMembersFrom {t : SyntaxTree} (next : Option Int) (seen : Option EnumValueKind) :
    List (Node t) → Except String (List (String × String))
  | [] => .ok []
  | node :: rest =>
    match enumMember next node with
    | .error reason => .error reason
    | .ok member =>
      if !member.key.isOneOf ["property_identifier", "string", "number"] then
        .error "computed enum member name"
      else if seen.any (· != member.kind) then
        .error "enum mixes string and numeric members"
      else do
        let members ← enumMembersFrom member.next (some member.kind) rest
        return (member.key.text, member.value) :: members

/-- The keys and values of an enum body, or why they cannot be told. -/
def enumMembers {t : SyntaxTree} (body : Node t) : Except String (List (String × String)) :=
  enumMembersFrom (some 0) none body.significantChildren

/-- The text of the constant object and of the union of its values. -/
def enumReplacement (exported indent name : String) (members : List (String × String)) : String :=
  let entries := ", ".intercalate (members.map fun (key, value) => key ++ ": " ++ value)
  exported ++ "const " ++ name ++ " = \x7b " ++ entries ++ " \x7d as const;\n"
    ++ indent ++ exported ++ "type " ++ name ++ " = (typeof " ++ name ++ ")[keyof typeof " ++ name
    ++ "];"

/-- Replaces an enum together with its `export`. -/
def fixEnum (ctx : FileContext) (m : Match ctx.tree) : Except Fault FixOutcome :=
  let n := m.node
  if ctx.isDeclarationFile || n.inAmbientContext then
    .ok (.manual "ambient enum has no runtime object to rewrite")
  else
    match n.child? "name", n.child? "body" with
    | some name, some body =>
      match enumMembers body with
      | .error reason => .ok (.manual reason)
      | .ok [] => .ok (.manual "empty enum")
      | .ok members =>
        -- both declarations are exported, so the `export` goes with the enum
        let target := (n.parent.filter (·.kind == "export_statement")).getD n
        let exported := if target = n then "" else "export "
        match indentAt? ctx.source target.span.start with
        | none => .error ⟨"offset outside the text"⟩
        | some indent =>
          .ok (.propose
            ("Replace enum `" ++ name.text ++ "` with a const object and union type")
            [.replace ctx.source target.span (enumReplacement exported indent name.text members)])
    | _, _ => .ok (.manual "incomplete enum declaration")

/-- An enum exists at run time and is compared by name. -/
def preferUnionOverEnum : Rule where
  name := "prefer-union-over-enum"
  code := "TY001"
  severity := .warning
  description := "Prefers an `as const` object and a literal union over `enum`"
  message := "enum `{name}` has runtime and nominal-typing pitfalls"
  help := some "use a const object with `as const` and derive the union type from it"
  matcher := .pattern ((Pattern.kind "enum_declaration").andField "name" (Pattern.any.as "name"))
  fixer := some (.custom fixEnum)

end TypeLint.Catalog
