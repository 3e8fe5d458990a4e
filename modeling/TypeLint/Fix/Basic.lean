import TypeLint.Fix.Edit

/-!
# Fixes

A fix is a set of edits that belong together, in the order of their spans, with the hash of the text
they were made for. `Fix.make` refuses edits that overlap.
-/

namespace TypeLint

/-- How sure it is that a fix keeps the meaning. -/
inductive Confidence where
  | low
  | medium
  | high
  deriving DecidableEq, Repr

/-- The name of a confidence in reports. -/
def Confidence.name : Confidence → String
  | .low => "low"
  | .medium => "medium"
  | .high => "high"

/-- A change of a text that is proposed as a whole. A fingerprint of zero is that of no text. -/
structure Fix where
  description : String
  confidence : Confidence
  edits : List Edit
  fingerprint : UInt64
  deriving DecidableEq, Repr

namespace Fix

/-- A fix of no text in particular, its edits sorted. -/
def make (description : String) (confidence : Confidence) (edits : List Edit) :
    Except EditError Fix :=
  let edits := Edit.sorted edits
  match Edit.firstOverlap? edits with
  | some (first, second) => .error (.overlap first second)
  | none => .ok { description, confidence, edits, fingerprint := 0 }

/-- The smallest span that holds every edit; a fix without edits has none. -/
def span? (fix : Fix) : Option Span :=
  match fix.edits with
  | [] => none
  | first :: rest => some (rest.foldl (fun acc e => acc.cover e.span) (first.span.cover first.span))

/-- The text with the fix made. -/
def apply (fix : Fix) (source : String) : Except EditError String := applyEdits source fix.edits

end Fix

end TypeLint
