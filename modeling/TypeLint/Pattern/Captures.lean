import TypeLint.Tree.Walk

/-!
# Named captures

What a matcher remembers about a hit: nodes of the tree and computed texts, each under a name. The
entries keep the order in which they were bound, and a name holds one value: binding it again drops
the older entry and puts the new one last.
-/

namespace TypeLint

/-- A captured value: a node of the tree `t`, or a text that was computed. -/
inductive Binding (t : SyntaxTree) where
  | node (node : Node t)
  | text (text : String)
  deriving DecidableEq

/-- Captured values under their names, in binding order. -/
structure Captures (t : SyntaxTree) where
  entries : List (String × Binding t) := []
  deriving DecidableEq

namespace Captures

variable {t : SyntaxTree}

/-- Nothing is bound. -/
def empty : Captures t := ⟨[]⟩

instance : Inhabited (Captures t) := ⟨empty⟩

/-- Number of bindings. -/
def size (c : Captures t) : Nat := c.entries.length

/-- Binds a value; an older binding of the name is dropped. -/
def bind (c : Captures t) (name : String) (value : Binding t) : Captures t :=
  ⟨c.entries.filter (·.1 != name) ++ [(name, value)]⟩

/-- Binds a node. -/
def bindNode (c : Captures t) (name : String) (n : Node t) : Captures t := c.bind name (.node n)

/-- Binds a computed text. -/
def bindText (c : Captures t) (name text : String) : Captures t := c.bind name (.text text)

/-- The first `n` bindings. -/
def take (c : Captures t) (n : Nat) : Captures t := ⟨c.entries.take n⟩

/-- The value under a name. -/
def get? (c : Captures t) (name : String) : Option (Binding t) :=
  (c.entries.find? (·.1 == name)).map (·.2)

/-- The node under a name, if it holds a node. -/
def node? (c : Captures t) (name : String) : Option (Node t) :=
  match c.get? name with
  | some (.node n) => some n
  | _ => none

/-- The span under a name, if it holds a node. -/
def span? (c : Captures t) (name : String) : Option Span := (c.node? name).map (·.span)

/-- The text under a name: the source text of a node, or the computed text. -/
def text? (c : Captures t) (name : String) : Option String :=
  match c.get? name with
  | some (.node n) => Text.slice? t.source n.span.start n.span.stop
  | some (.text s) => some s
  | none => none

end Captures

end TypeLint
