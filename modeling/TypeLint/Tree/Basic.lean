import TypeLint.Tree.Entry

/-!
# Syntax trees

A `SyntaxTree` is a source text with a coherent list of entries over it, so every tree that exists
is well formed; trees are made from entries by a `TreeBuilder`. The nodes of a tree `t` are the type
`Node t`; a node is its position in the list. Parents come before children (`Node.parent_lt`), and
the children of a node are exactly the nodes that name it as their parent (`Node.mem_children_iff`).

Positions are unbounded numbers here. They stand for numbers of 32 bits, so trees are meant to have
fewer than two to the power thirty-two nodes, and nothing is said of larger ones.
-/

namespace TypeLint

open TypeLint.Tree

namespace Tree

/-- The positions of every entry's children, in order: each entry but the first is put into the
list of its parent, from the last entry to the first. -/
def childLists (entries : Array Entry) : Array (List Nat) :=
  (List.range entries.size).foldr
    (fun i lists =>
      match entries[i]?.bind Entry.parent with
      | some p => lists.modify p (i :: ·)
      | none => lists)
    (Array.replicate entries.size [])

end Tree

/-- A source text with a tree of nodes over it. -/
structure SyntaxTree where
  source : String
  entries : Array Entry
  childIds : Array (List Nat)
  coherent : Coherent source entries
  nonempty : 0 < entries.size
  childIds_eq : childIds = childLists entries

/-- A node of the tree `t`, named by its position in the list of entries. -/
structure Node (t : SyntaxTree) where
  id : Nat
  isLt : id < t.entries.size
  deriving DecidableEq

namespace SyntaxTree

/-- Number of nodes. -/
def size (t : SyntaxTree) : Nat := t.entries.size

/-- The tree has nothing below its root. -/
def isEmpty (t : SyntaxTree) : Bool := t.size ≤ 1

/-- The node at a position, if there is one. -/
def node? (t : SyntaxTree) (i : Nat) : Option (Node t) :=
  if h : i < t.entries.size then some ⟨i, h⟩ else none

/-- The first node. -/
def root (t : SyntaxTree) : Node t := ⟨0, t.nonempty⟩

end SyntaxTree

namespace Node

variable {t : SyntaxTree}

/-- What the parser said about the node. -/
def entry : Node t → Entry
  | ⟨i, _⟩ => t.entries[i]

/-- Grammar kind, or the token itself for a bare token. -/
def kind (n : Node t) : String := n.entry.kind

/-- The field of the parent that holds the node. -/
def field (n : Node t) : Option String := n.entry.field

/-- The node is a grammar rule and not a bare token. -/
def named (n : Node t) : Bool := n.entry.named

/-- The bytes the node covers. -/
def span (n : Node t) : Span := n.entry.span

/-- The text the node covers. -/
def text (n : Node t) : String := (Text.slice? t.source n.span.start n.span.stop).getD ""

/-- The kind is one of those listed. -/
def isOneOf (n : Node t) (kinds : List String) : Bool := kinds.contains n.kind

/-- The node above this one; the root has none. -/
def parent (n : Node t) : Option (Node t) := n.entry.parent.bind t.node?

/-- The nodes directly below this one, in order, tokens included. -/
def children (n : Node t) : List (Node t) := (t.childIds[n.id]?.getD []).filterMap t.node?

/-- The children that are grammar rules. -/
def namedChildren (n : Node t) : List (Node t) := n.children.filter (·.named)

/-- The named children that are not comments: what quantifiers count. -/
def significantChildren (n : Node t) : List (Node t) :=
  n.namedChildren.filter (·.kind != "comment")

/-- The first child under a field. -/
def child? (n : Node t) (field : String) : Option (Node t) :=
  n.children.find? (·.field == some field)

/-- Every child under a field. -/
def childrenUnder (n : Node t) (field : String) : List (Node t) :=
  n.children.filter (·.field == some field)

/-- The first named child. -/
def firstNamed? (n : Node t) : Option (Node t) := n.namedChildren.head?

/-- The bare token child with this text. -/
def token? (n : Node t) (token : String) : Option (Node t) :=
  n.children.find? fun c => !c.named && c.kind == token

/-- Some child is the bare token with this text. -/
def hasToken (n : Node t) (token : String) : Bool :=
  n.children.any fun c => !c.named && c.kind == token

/-- The sibling right after this node, tokens included. -/
def next? (n : Node t) : Option (Node t) :=
  n.parent.bind fun p => ((p.children.dropWhile (· != n)).drop 1).head?

/-- The sibling right before this node, tokens included. -/
def previous? (n : Node t) : Option (Node t) :=
  n.parent.bind fun p => (p.children.takeWhile (· != n)).getLast?

end Node

/-! ## Parents and children -/

namespace SyntaxTree

variable {t : SyntaxTree}

@[simp]
theorem node?_id (n : Node t) : t.node? n.id = some n := by
  rw [node?, dif_pos n.isLt]

theorem node?_eq_some_iff {i : Nat} {n : Node t} : t.node? i = some n ↔ n.id = i := by
  constructor
  · intro h
    unfold node? at h
    split at h
    · cases h; rfl
    · cases h
  · rintro rfl
    exact node?_id n

end SyntaxTree

namespace Tree

/-- One step of `childLists` puts the entry into its parent's list and leaves the others alone. -/
private theorem getElem?_foldr_childLists (entries : Array Entry) (is : List Nat) (p : Nat)
    (hp : p < entries.size) :
    (is.foldr
      (fun i lists =>
        match entries[i]?.bind Entry.parent with
        | some p => lists.modify p (i :: ·)
        | none => lists)
      (Array.replicate entries.size []))[p]?
      = some (is.filter fun i => entries[i]?.bind Entry.parent == some p) := by
  induction is with
  | nil => simp [hp]
  | cons i is ih =>
    rw [List.foldr_cons, List.filter_cons]
    split
    · next q hq =>
      rw [Array.getElem?_modify, hq]
      by_cases hqp : q = p
      · simp [hqp, ih]
      · simp [hqp, ih]
    · next hq => simp [hq, ih]

/-- The list kept for `p` holds the positions that name `p` as their parent, in ascending order. -/
theorem getElem?_childLists {entries : Array Entry} {p : Nat} (hp : p < entries.size) :
    (childLists entries)[p]?
      = some ((List.range entries.size).filter fun i =>
          entries[i]?.bind Entry.parent == some p) :=
  getElem?_foldr_childLists entries _ p hp

end Tree

namespace Node

variable {t : SyntaxTree}

theorem getElem?_id (n : Node t) : t.entries[n.id]? = some n.entry :=
  Array.getElem?_eq_getElem n.isLt

/-- A parent has an entry, before the node's own, whose span holds the node's span. -/
theorem parent_eq_some_iff {n p : Node t} : n.parent = some p ↔ n.entry.parent = some p.id := by
  unfold parent
  rw [Option.bind_eq_some_iff]
  constructor
  · rintro ⟨i, hi, hp⟩
    rw [hi, SyntaxTree.node?_eq_some_iff.1 hp]
  · intro h
    exact ⟨p.id, h, SyntaxTree.node?_id p⟩

/-- Parents come before their children. -/
theorem parent_lt {n p : Node t} (h : n.parent = some p) : p.id < n.id := by
  have ha := (t.coherent n.id n.entry n.getElem?_id).2
  rw [Attached, parent_eq_some_iff.1 h] at ha
  obtain ⟨_, hlt, _⟩ := ha
  exact hlt

/-- A node lies within its parent. -/
theorem parent_contains {n p : Node t} (h : n.parent = some p) : p.span.contains n.span := by
  have ha := (t.coherent n.id n.entry n.getElem?_id).2
  rw [Attached, parent_eq_some_iff.1 h] at ha
  obtain ⟨d, _, hd, hc⟩ := ha
  rw [p.getElem?_id, Option.some.injEq] at hd
  subst hd
  exact hc

/-- The children of a node are the nodes that name it as their parent. -/
theorem mem_children_iff {n c : Node t} : c ∈ n.children ↔ c.parent = some n := by
  rw [children, t.childIds_eq, getElem?_childLists n.isLt, Option.getD_some, List.mem_filterMap,
    parent_eq_some_iff]
  constructor
  · rintro ⟨i, hi, hc⟩
    rw [List.mem_filter] at hi
    have := hi.2
    rw [← SyntaxTree.node?_eq_some_iff.1 hc, c.getElem?_id] at this
    simpa using this
  · intro h
    refine ⟨c.id, ?_, SyntaxTree.node?_id c⟩
    rw [List.mem_filter]
    refine ⟨List.mem_range.2 c.isLt, ?_⟩
    rw [c.getElem?_id]
    simpa using h

/-- Children come after their parents. -/
theorem lt_of_mem_children {n c : Node t} (h : c ∈ n.children) : n.id < c.id :=
  parent_lt (mem_children_iff.1 h)

theorem mem_children_of_child? {n c : Node t} {field : String} (h : n.child? field = some c) :
    c ∈ n.children :=
  List.mem_of_find?_eq_some h

theorem mem_children_of_mem_namedChildren {n c : Node t} (h : c ∈ n.namedChildren) :
    c ∈ n.children :=
  (List.mem_filter.1 h).1

theorem mem_children_of_firstNamed? {n c : Node t} (h : n.firstNamed? = some c) :
    c ∈ n.children :=
  mem_children_of_mem_namedChildren (List.mem_of_head? h)

end Node

end TypeLint
