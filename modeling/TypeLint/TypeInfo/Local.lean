import TypeLint.TypeInfo.Basic
import TypeLint.Scope.TypeReference

/-!
# Types that can be read off the text

The local oracle knows the widened type of a literal and, from it, the return type of a function all
of whose own return statements give literals of one type. It never guesses: anything else has no
answer.
-/

namespace TypeLint.LocalTypes

variable {t : SyntaxTree}

/-- The primitive type of a literal expression; parentheses and signs are looked through. -/
def widened? (e : Node t) : Option String :=
  match e.kind with
  | "string" => some "string"
  | "template_string" =>
    if e.namedChildren.any (·.kind == "template_substitution") then none else some "string"
  | "number" => some "number"
  | "true" => some "boolean"
  | "false" => some "boolean"
  | "null" => some "null"
  | "undefined" => some "undefined"
  | "parenthesized_expression" =>
    match _h : e.firstNamed? with
    | some inner => widened? inner
    | none => none
  | "unary_expression" =>
    match _h : e.child? "argument" with
    | some operand =>
      if e.hasToken "!" then some "boolean"
      else if e.hasToken "-" || e.hasToken "+" then
        if widened? operand == some "number" then some "number" else none
      else none
    | none => none
  | _ => none
termination_by t.size - e.id
decreasing_by
  · have := Node.lt_of_mem_children (Node.mem_children_of_firstNamed? _h)
    have := inner.isLt
    simp only [SyntaxTree.size]
    omega
  · have := Node.lt_of_mem_children (Node.mem_children_of_child? _h)
    have := operand.isLt
    simp only [SyntaxTree.size]
    omega

/-- Functions and classes: a `return` inside them is not the outer function's. -/
def isNestedScope (n : Node t) : Bool :=
  n.isFunction || n.isOneOf ["class_declaration", "class", "abstract_class_declaration"]

/-- Where the search for return statements goes from a node: nowhere from a return statement, and
from any other into its named children that are no scope of their own. -/
def withinFunction (n : Node t) : List (Node t) :=
  if n.kind == "return_statement" then [] else n.namedChildren.filter (!isNestedScope ·)

/-- The function's own return statements. -/
def returnStatements (body : Node t) : List (Node t) :=
  (body.reach withinFunction).filter (·.kind == "return_statement")

/-- The value of a return statement. -/
def returned? (statement : Node t) : Option (Node t) := statement.significantChildren.head?

/-- The type of a function body: `void` when no statement returns a value, the common type when
every statement returns a literal of that type. -/
def blockType? (body : Node t) : Option String :=
  let statements := returnStatements body
  let values := statements.filterMap returned?
  match values with
  | [] => some "void"
  | first :: _ =>
    if values.length < statements.length then none
    else
      match widened? first with
      | none => none
      | some type => if values.all (widened? · == some type) then some type else none

/-- The type a function returns; a generator's is not told. -/
def returnType? (func : Node t) : Option String := do
  if func.kind == "generator_function_declaration" || func.hasToken "*" then none
  else
    let body ← func.child? "body"
    let inner ← if body.kind == "statement_block" then blockType? body else widened? body
    return if func.hasToken "async" then "Promise<" ++ inner ++ ">" else inner

/-- The local oracle. -/
def oracle : TypeOracle := fun n =>
  TypeInfo.mk <$>
    if n.isFunction then returnType? n
    else if n.kind == "variable_declarator" then (n.child? "value").bind widened?
    else widened? n

end TypeLint.LocalTypes
