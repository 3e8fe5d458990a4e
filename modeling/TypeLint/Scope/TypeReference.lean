import TypeLint.Tree.Walk

/-!
# References to a type parameter

Counting how often a type parameter is used below a node. A qualified name does not refer to it,
and a function that declares a type parameter of the same name hides it.
-/

namespace TypeLint

/-- The kinds of node that own a parameter list and may declare type parameters. -/
def functionKinds : List String :=
  ["function_declaration", "function_signature", "function_expression",
    "generator_function_declaration", "arrow_function", "method_definition", "method_signature",
    "abstract_method_signature", "call_signature", "construct_signature", "function_type"]

namespace Node

variable {t : SyntaxTree}

/-- The node owns a parameter list. -/
def isFunction (n : Node t) : Bool := n.isOneOf functionKinds

/-- The type parameters in a list of them. -/
def typeParameters (list : Node t) : List (Node t) :=
  list.namedChildren.filter (·.kind == "type_parameter")

/-- The node is a function with a type parameter of this name of its own. -/
def shadows (n : Node t) (name : String) : Bool :=
  n.isFunction && (n.child? "type_parameters").any fun list =>
    list.typeParameters.any fun p => (p.child? "name").any (·.text == name)

/-- The node spells the type of this name, unqualified. -/
def refersTo (n : Node t) (name : String) : Bool :=
  n.kind == "type_identifier" && n.text == name &&
    n.parent.map (·.kind) != some "nested_type_identifier"

/-- The named children into which a reference to the name can reach. -/
def openTo (name : String) (n : Node t) : List (Node t) :=
  n.namedChildren.filter (!·.shadows name)

/-- Number of references to the name at this node and below it; whether the node itself hides the
name does not matter. -/
def countTypeRefs (root : Node t) (name : String) : Nat :=
  (root.reach (openTo name)).countP (·.refersTo name)

end Node

end TypeLint
