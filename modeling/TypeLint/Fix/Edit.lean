import TypeLint.Span.Basic
import TypeLint.Text.Slice
import TypeLint.Text.Quoted

/-!
# Edits of a text

An edit replaces the text under a span and remembers what stood there, so that it can be refused
when the text has changed. `applyEdits` makes all the edits of a list at once or none of them: edits
that overlap are refused first, then, from left to right, an edit outside the text and one whose
text has changed.
-/

namespace TypeLint

/-- One replacement: the bytes to replace, the new text, and the text that stood there. -/
structure Edit where
  span : Span
  replacement : String
  expected : String
  deriving DecidableEq, Repr

/-- Why edits cannot be made. -/
inductive EditError where
  /-- two edits overlap -/
  | overlap (first second : Span)
  /-- the text under an edit is not the one it was made for -/
  | sourceDrift (span : Span) (expected found : String)
  /-- an edit lies outside the text or splits a character -/
  | outOfBounds (span : Span) (size : Nat)
  /-- the file cannot be read or written -/
  | io (path cause : String)
  deriving DecidableEq, Repr

/-- The error in words. -/
def EditError.message : EditError → String
  | .overlap first second => "overlapping edits at " ++ first.text ++ " and " ++ second.text
  | .sourceDrift span expected found =>
    "source changed since analysis at " ++ span.text ++ ": expected " ++ Text.quote expected
      ++ ", found " ++ Text.quote found
  | .outOfBounds span size =>
    "edit " ++ span.text ++ " is outside the source (" ++ toString size ++ " bytes)"
  | .io path cause => "failed to access " ++ path ++ ": " ++ cause

namespace Edit

/-- Replaces a span of the text; under a span that is no slice of it nothing is expected. -/
def replace (source : String) (span : Span) (replacement : String) : Edit :=
  ⟨span, replacement, (Text.slice? source span.start span.stop).getD ""⟩

/-- Inserts at an offset. -/
def insert (offset : Nat) (text : String) : Edit := ⟨.point offset, text, ""⟩

/-- Deletes a span of the text. -/
def delete (source : String) (span : Span) : Edit := replace source span ""

/-- The edits ordered by their spans; edits of equal spans stay in the given order. -/
def sorted (edits : List Edit) : List Edit :=
  edits.mergeSort fun a b => a.span.before b.span

/-- The first two neighbours in the list whose spans overlap. -/
def firstOverlap? : List Edit → Option (Span × Span)
  | a :: b :: rest =>
    if a.span.overlaps b.span then some (a.span, b.span) else firstOverlap? (b :: rest)
  | _ => none

/-- Makes edits from left to right, given what precedes each one from `cursor` on. -/
def splice (source : String) : (cursor : Nat) → List Edit → Except EditError String
  | cursor, [] => .ok ((Text.slice? source cursor source.utf8ByteSize).getD "")
  | cursor, e :: rest =>
    match Text.slice? source e.span.start e.span.stop with
    | none => .error (.outOfBounds e.span source.utf8ByteSize)
    | some found =>
      if found != e.expected then .error (.sourceDrift e.span e.expected found)
      else do
        let kept := (Text.slice? source cursor e.span.start).getD ""
        let tail ← splice source e.span.stop rest
        return kept ++ e.replacement ++ tail

end Edit

/-- Makes all the edits at once. -/
def applyEdits (source : String) (edits : List Edit) : Except EditError String :=
  let edits := Edit.sorted edits
  match Edit.firstOverlap? edits with
  | some (first, second) => .error (.overlap first second)
  | none => Edit.splice source 0 edits

end TypeLint
