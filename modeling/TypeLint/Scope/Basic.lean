import TypeLint.Scope.TypeReference

/-!
# Declarations and their scopes

The scope index of a tree lists its named declarations in document order, each with the block it
stands in, and for every type parameter of a function how often the signature and the body refer to
it. A scope is a `program` or a `statement_block`.
-/

namespace TypeLint

/-- What a named declaration declares. -/
inductive DeclarationKind where
  | interfaceType
  | typeAlias
  | classType
  | enumType
  | function
  | namespaceBlock
  deriving DecidableEq, Repr

/-- The declaration that a grammar kind makes, if it makes one. -/
def DeclarationKind.ofNodeKind? (kind : String) : Option DeclarationKind :=
  match kind with
  | "interface_declaration" => some .interfaceType
  | "type_alias_declaration" => some .typeAlias
  | "class_declaration" => some .classType
  | "abstract_class_declaration" => some .classType
  | "enum_declaration" => some .enumType
  | "function_declaration" => some .function
  | "function_signature" => some .function
  | "internal_module" => some .namespaceBlock
  | _ => none

/-- Interfaces and type aliases: the declarations whose repetition is checked. -/
def DeclarationKind.isType : DeclarationKind → Bool
  | .interfaceType => true
  | .typeAlias => true
  | _ => false

/-- A named declaration in its scope. -/
structure Declaration (t : SyntaxTree) where
  name : String
  kind : DeclarationKind
  node : Node t
  nameSpan : Span
  scope : Node t
  ambient : Bool
  exported : Bool
  deriving DecidableEq

/-- How often one type parameter is referred to: in the signature as a whole, in the return type
alone, and in the body. -/
structure TypeParameterUse (t : SyntaxTree) where
  owner : Node t
  param : Node t
  name : String
  signatureRefs : Nat
  returnRefs : Nat
  bodyRefs : Nat
  deriving DecidableEq

/-- The declarations and type parameters of a tree. -/
structure ScopeIndex (t : SyntaxTree) where
  declarations : List (Declaration t)
  typeParameters : List (TypeParameterUse t)
  deriving DecidableEq

namespace Node

variable {t : SyntaxTree}

/-- The nearest scope above the node. -/
def enclosingScope? (n : Node t) : Option (Node t) :=
  n.ancestors.find? (·.isOneOf ["program", "statement_block"])

/-- The block is the body of a namespace or a module. -/
def isNamespaceBody (n : Node t) : Bool :=
  n.parent.any (·.isOneOf ["internal_module", "module"])

/-- The node declares something that exists elsewhere: `declare ...` or a module by name. -/
def isAmbientDeclaration (n : Node t) : Bool := n.isOneOf ["ambient_declaration", "module"]

/-- The block is the body of an ambient declaration, or of a namespace within one: no block of
statements comes between. -/
def isAmbientBlock (n : Node t) : Bool :=
  n.kind == "statement_block" &&
    (n.ancestors.takeWhile fun a => a.kind != "statement_block" || a.isNamespaceBody).any
      (·.isAmbientDeclaration)

/-- Some node above is an ambient declaration. -/
def inAmbientContext (n : Node t) : Bool := n.ancestors.any (·.isAmbientDeclaration)

/-- The node stands right under an `export`. -/
def isExported (n : Node t) : Bool := n.parent.any (·.kind == "export_statement")

/-- The declaration this node makes, if it makes one, has a name and stands in a scope. -/
def declaration? (n : Node t) : Option (Declaration t) := do
  let kind ← DeclarationKind.ofNodeKind? n.kind
  let name ← n.child? "name"
  let scope ← n.enclosingScope?
  return {
    name := name.text, kind, node := n, nameSpan := name.span, scope
    ambient := scope.isAmbientBlock, exported := n.isExported }

/-- References to the name in the child under a field. -/
def countUnder (n : Node t) (field name : String) : Nat :=
  match n.child? field with
  | some child => child.countTypeRefs name
  | none => 0

/-- References to the name in the constraint and the default of a type parameter. -/
def countInParameter (p : Node t) (name : String) : Nat :=
  p.countUnder "constraint" name + p.countUnder "value" name

/-- The uses of the type parameters that a function declares. -/
def typeParameterUses (owner : Node t) : List (TypeParameterUse t) :=
  if owner.isFunction then
    match owner.child? "type_parameters" with
    | none => []
    | some list =>
      list.typeParameters.filterMap fun param =>
        (param.child? "name").map fun nameNode =>
          let name := nameNode.text
          let siblings := list.typeParameters.filter (· != param)
          let siblingRefs := siblings.foldr (fun p refs => p.countInParameter name + refs) 0
          let returnRefs := owner.countUnder "return_type" name
          { owner, param, name
            signatureRefs := owner.countUnder "parameters" name + returnRefs + siblingRefs
            returnRefs
            bodyRefs := owner.countUnder "body" name }
  else
    []

end Node

namespace ScopeIndex

variable {t : SyntaxTree}

/-- The index of a tree, in document order. -/
def ofTree (t : SyntaxTree) : ScopeIndex t where
  declarations := t.preorder.filterMap (·.declaration?)
  typeParameters := t.preorder.flatMap (·.typeParameterUses)

/-- The declaration that a node makes. -/
def declaration? (index : ScopeIndex t) (n : Node t) : Option (Declaration t) :=
  index.declarations.find? (·.node == n)

/-- The declarations of a name in a scope. -/
def declarationsOf (index : ScopeIndex t) (scope : Node t) (name : String) :
    List (Declaration t) :=
  index.declarations.filter fun d => d.scope == scope && d.name == name

/-- The declarations that share name and scope with the one the node makes, itself included. -/
def siblings (index : ScopeIndex t) (n : Node t) : List (Declaration t) :=
  match index.declaration? n with
  | some d => index.declarationsOf d.scope d.name
  | none => []

/-- The uses of the type parameter at a node. -/
def use? (index : ScopeIndex t) (param : Node t) : Option (TypeParameterUse t) :=
  index.typeParameters.find? (·.param == param)

end ScopeIndex

end TypeLint
