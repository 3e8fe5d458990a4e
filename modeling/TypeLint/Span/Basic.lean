/-!
# Byte ranges

A span is a half-open range of byte offsets, `start` included and `stop` excluded. Two readings of
"these ranges meet" matter for edits, and `overlaps` is the one every conflict check uses: ranges
that hold bytes conflict when they share one, an insertion conflicts with a range around it and
with an insertion at the same place, and ranges that only touch do not conflict.
-/

namespace TypeLint

/-- A range of bytes from `start` up to, and without, `stop`. -/
structure Span where
  start : Nat
  stop : Nat
  deriving DecidableEq, Repr, Inhabited

namespace Span

/-- The span between two offsets, whichever comes first. -/
def between (a b : Nat) : Span := if a ≤ b then ⟨a, b⟩ else ⟨b, a⟩

/-- The span of no bytes at an offset: where an insertion goes. -/
def point (offset : Nat) : Span := ⟨offset, offset⟩

/-- Number of bytes. -/
def length (s : Span) : Nat := s.stop - s.start

/-- The span holds no byte. -/
def isEmpty (s : Span) : Bool := s.start == s.stop

/-- `t` lies within `s`. -/
def contains (s t : Span) : Bool := s.start ≤ t.start && t.stop ≤ s.stop

/-- The smallest span that holds both. -/
def cover (s t : Span) : Span := between (min s.start t.start) (max s.stop t.stop)

/-- Edits of these two ranges cannot both be made. -/
def overlaps (s t : Span) : Bool :=
  match s.isEmpty, t.isEmpty with
  | true, true => s.start == t.start
  | true, false => t.start < s.start && s.start < t.stop
  | false, true => s.start < t.start && t.start < s.stop
  | false, false => s.start < t.stop && t.start < s.stop

/-- Spans are ordered by where they start, then by where they stop. -/
protected def compare (s t : Span) : Ordering :=
  (Ord.compare s.start t.start).then (Ord.compare s.stop t.stop)

/-- `s` comes before `t` or is equal to it. -/
def before (s t : Span) : Bool := s.start < t.start || (s.start == t.start && s.stop ≤ t.stop)

/-- The offsets with two points between them. -/
def text (s : Span) : String := toString s.start ++ ".." ++ toString s.stop

theorem between_start_le_stop (a b : Nat) : (between a b).start ≤ (between a b).stop := by
  unfold between
  split <;> simp <;> omega

theorem overlaps_comm (s t : Span) : s.overlaps t = t.overlaps s := by
  unfold overlaps
  cases s.isEmpty <;> cases t.isEmpty <;> grind

end Span

end TypeLint
