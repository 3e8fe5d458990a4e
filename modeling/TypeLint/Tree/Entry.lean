import TypeLint.Span.Basic
import TypeLint.Text.Slice

/-!
# What a parser hands over

A parser describes a syntax tree as a list of entries, parents before children. Not every list is a
tree over the text: `firstError?` finds the first entry that is out of place, and
`firstError?_eq_none_iff` says that there is none exactly when the list is `Coherent`.
-/

namespace TypeLint.Tree

/-- One node as the parser describes it: the position of its parent in the list, its grammar kind,
the field of the parent that holds it, whether it is a grammar rule or a bare token, and its two
byte offsets, in either order. -/
structure Entry where
  parent : Option Nat
  kind : String
  field : Option String
  named : Bool
  first : Nat
  last : Nat
  deriving DecidableEq, Repr, Inhabited

/-- The bytes the node covers. -/
def Entry.span (e : Entry) : Span := .between e.first e.last

/-- Why a list of entries is not a tree over its text. -/
inductive TreeError where
  /-- there is no entry at all -/
  | empty
  /-- a later entry has no parent -/
  | multipleRoots
  /-- the span ends past the end of the text -/
  | outOfBounds (kind : String) (span : Span) (size : Nat)
  /-- the parent is missing, comes later, or does not hold the span -/
  | escapesParent (kind : String) (span : Span)
  /-- the span starts or stops inside a character -/
  | splitsCharacter (kind : String) (span : Span)
  deriving DecidableEq, Repr

/-- The error in words. -/
def TreeError.message : TreeError → String
  | .empty => "tree has no root node"
  | .multipleRoots => "tree has more than one root"
  | .outOfBounds kind span size =>
    "span " ++ span.text ++ " of `" ++ kind ++ "` exceeds source length " ++ toString size
  | .escapesParent kind span => "span " ++ span.text ++ " of `" ++ kind ++ "` escapes its parent"
  | .splitsCharacter kind span => "span " ++ span.text ++ " of `" ++ kind ++ "` splits a character"

/-- The span lies within the text and starts and stops between characters. -/
def Fits (source : String) (s : Span) : Prop :=
  s.stop ≤ source.utf8ByteSize ∧ Text.IsBoundary source s.start ∧ Text.IsBoundary source s.stop

/-- The entry at position `i` has its place: the first has no parent, and every other has one that
comes before it and holds its span. -/
def Attached (entries : Array Entry) (i : Nat) (e : Entry) : Prop :=
  match e.parent with
  | none => i = 0
  | some p => ∃ d, p < i ∧ entries[p]? = some d ∧ d.span.contains e.span = true

/-- Every entry fits the text and is attached. -/
def Coherent (source : String) (entries : Array Entry) : Prop :=
  ∀ i e, entries[i]? = some e → Fits source e.span ∧ Attached entries i e

/-- What is wrong with the entry `e` at position `i`: the bounds are judged first, then the
characters, then the parent. -/
def entryError? (source : String) (entries : Array Entry) (i : Nat) (e : Entry) :
    Option TreeError :=
  if source.utf8ByteSize < e.span.stop then
    some (.outOfBounds e.kind e.span source.utf8ByteSize)
  else if ¬ (Text.IsBoundary source e.span.start ∧ Text.IsBoundary source e.span.stop) then
    some (.splitsCharacter e.kind e.span)
  else
    match e.parent with
    | none => if i = 0 then none else some .multipleRoots
    | some p =>
      match entries[p]? with
      | some d =>
        if p < i ∧ d.span.contains e.span = true then none
        else some (.escapesParent e.kind e.span)
      | none => some (.escapesParent e.kind e.span)

/-- What is wrong with the first entry that is out of place. -/
def firstError? (source : String) (entries : Array Entry) : Option TreeError :=
  (List.range entries.size).findSome? fun i =>
    entries[i]?.bind (entryError? source entries i)

theorem entryError?_eq_none_iff {source : String} {entries : Array Entry} {i : Nat} {e : Entry} :
    entryError? source entries i e = none ↔ Fits source e.span ∧ Attached entries i e := by
  unfold entryError? Fits Attached
  split
  · next h => simp; omega
  · next h =>
    have hle : e.span.stop ≤ source.utf8ByteSize := by omega
    split
    · next hb =>
      simp only [reduceCtorEq, false_iff]
      rintro ⟨⟨-, hb'⟩, -⟩
      exact hb hb'
    · next hb =>
      have hb : Text.IsBoundary source e.span.start ∧ Text.IsBoundary source e.span.stop :=
        Decidable.not_not.1 hb
      split
      · next hp => by_cases hi : i = 0 <;> simp [hi, hle, hb.1, hb.2]
      · next p hp =>
        split
        · next d hd =>
          by_cases hc : p < i ∧ d.span.contains e.span = true
          · simp [hc, hle, hb.1, hb.2, hd]
          · simp only [hc, if_false, reduceCtorEq, false_iff]
            rintro ⟨-, d', hlt, hd', hcon⟩
            rw [hd, Option.some.injEq] at hd'
            exact hc ⟨hlt, hd' ▸ hcon⟩
        · next hd => simp [hd]

/-- No entry is out of place exactly when the list is coherent. -/
theorem firstError?_eq_none_iff {source : String} {entries : Array Entry} :
    firstError? source entries = none ↔ Coherent source entries := by
  unfold firstError? Coherent
  rw [List.findSome?_eq_none_iff]
  constructor
  · intro h i e hi
    have hlt : i < entries.size := (Array.getElem?_eq_some_iff.1 hi).1
    have := h i (List.mem_range.2 hlt)
    rw [hi] at this
    exact entryError?_eq_none_iff.1 this
  · intro h i hi
    cases he : entries[i]? with
    | none => rfl
    | some e => exact entryError?_eq_none_iff.2 (h i e he)

end TypeLint.Tree
