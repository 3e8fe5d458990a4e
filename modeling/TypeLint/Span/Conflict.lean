import TypeLint.Span.Basic

/-!
# Which spans of a list conflict

`conflictingPairs` finds every pair of positions whose spans overlap by one sweep from left to
right: the spans are sorted, and each is compared only with those that start no later than it
stops.
-/

namespace TypeLint.Span

/-- The conflicts of one span with the spans that follow it in sorted order. The comparison ends at
the first span that starts past the end of this one. -/
def conflictsWith (i : Nat × Span) : List (Nat × Span) → List (Nat × Nat)
  | [] => []
  | j :: rest =>
    if i.2.stop < j.2.start then []
    else if i.2.overlaps j.2 then (min i.1 j.1, max i.1 j.1) :: conflictsWith i rest
    else conflictsWith i rest

/-- The conflicts among spans in sorted order, each span against those after it. -/
def sweep : List (Nat × Span) → List (Nat × Nat)
  | [] => []
  | i :: rest => conflictsWith i rest ++ sweep rest

/-- Pairs of positions are ordered by the first, then by the second. -/
def pairBefore (p q : Nat × Nat) : Bool := p.1 < q.1 || (p.1 == q.1 && p.2 ≤ q.2)

/-- The spans with their positions, sorted; equal spans stay in the order of their positions. -/
def numbered (spans : List Span) : List (Nat × Span) :=
  (spans.zipIdx.map fun (s, i) => (i, s)).mergeSort fun p q => p.2.before q.2

/-- The pairs `(i, j)` of positions, `i < j`, whose spans overlap, in ascending order. -/
def conflictingPairs (spans : List Span) : List (Nat × Nat) :=
  (sweep (numbered spans)).mergeSort pairBefore

end TypeLint.Span
