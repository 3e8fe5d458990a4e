import TypeLint.Text.Slice

/-!
# Lines and columns

A line index holds the byte offset at which every line starts. Positions are counted from one, and
a column counts characters; an offset inside a character has no character count, so its column
counts bytes.
-/

namespace TypeLint

/-- A place in a text as people count: line and column, both from one. -/
structure Position where
  line : Nat
  column : Nat
  deriving DecidableEq, Repr, Inhabited

/-- The offsets at which the lines of a text start, in ascending order. -/
structure LineIndex where
  starts : List Nat
  deriving DecidableEq, Repr

namespace LineIndex

/-- Where lines start after the newlines of a text whose first byte has offset `i`. -/
def startsFrom (i : Nat) : List Char → List Nat
  | [] => []
  | c :: cs =>
    if c = '\n' then (i + c.utf8Size) :: startsFrom (i + c.utf8Size) cs
    else startsFrom (i + c.utf8Size) cs

/-- The index of a text: its first line starts at zero, and one more after every newline. -/
def ofText (source : String) : LineIndex := ⟨0 :: startsFrom 0 source.toList⟩

/-- The lines that start at the offset or before it. -/
def upTo (lines : LineIndex) (offset : Nat) : List Nat := lines.starts.takeWhile (· ≤ offset)

/-- Number of lines. -/
def count (lines : LineIndex) : Nat := lines.starts.length

/-- Where the line that holds the offset starts. -/
def lineStart (lines : LineIndex) (offset : Nat) : Nat := (lines.upTo offset).getLastD 0

/-- Line and column of an offset; an offset past the end counts as the end. -/
def position (lines : LineIndex) (source : String) (offset : Nat) : Position :=
  let offset := min offset source.utf8ByteSize
  let start := lines.lineStart offset
  let column :=
    match Text.slice? source start offset with
    | some text => text.length
    | none => offset - start
  ⟨(lines.upTo offset).length, column + 1⟩

end LineIndex

end TypeLint
