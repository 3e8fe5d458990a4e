import TypeLint.Pattern.Template
import TypeLint.Proofs.Rule.SoundFixes

/-!
# Rendering undoes writing

A template is written from segments: literal texts, in which every brace is doubled, and placeholders,
names between braces. Rendering what was written gives the literals back and puts the captured texts
in the place of the names, whatever stands next to what: `rendering_undoes_writing`.

Reading goes from left to right and never looks back, so it is enough to know what it makes of one
written character (`fillChars_doubled`) and of one placeholder (`fillChars_braced`) in front of any
rest. A doubled brace is taken before the rest is looked at, and a placeholder ends at the first
closing brace, which is its own because its name has none. What a name stands for is put out and
not read again.
-/

namespace TypeLint

namespace Template

/-! ## Writing -/

/-- The character is a brace. -/
def isBrace (c : Char) : Bool := c == '{' || c == '}'

/-- A character of a literal text as it is written: a brace twice. -/
def doubled (c : Char) : List Char := if isBrace c then [c, c] else [c]

/-- A literal text as it is written. -/
def escape (text : String) : String := String.ofList (text.toList.flatMap doubled)

/-- A name between braces. -/
def braced (name : String) : String := String.ofList ('{' :: (name.toList ++ ['}']))

theorem toList_braced (name : String) : (braced name).toList = '{' :: (name.toList ++ ['}']) :=
  String.toList_ofList

/-- A piece of a template: a literal text, or a placeholder, whose name has no braces. -/
inductive Segment where
  | literal (text : String)
  | placeholder (name : String) (plain : name.toList.any isBrace = false)

namespace Segment

/-- The segment as it is written in a template. -/
def written : Segment → String
  | .literal text => escape text
  | .placeholder name _ => braced name

/-- What the segment stands for: a literal for itself, a placeholder for the text of the node or the
computed text that is bound to its name, and for itself if nothing is. -/
def value {t : SyntaxTree} (captures : Captures t) : Segment → String
  | .literal text => text
  | .placeholder name _ =>
    match captures.get? name with
    | some (.node n) => n.text
    | some (.text text) => text
    | none => braced name

end Segment

/-- The template that the segments are written as, one after another. -/
def write (segments : List Segment) : String := String.join (segments.map (·.written))

/-! ## Reading one piece -/

section Reading

variable (value : List Char → Option (List Char))

theorem fillChars_of_not_brace {c : Char} (h : isBrace c = false) (rest : List Char) :
    fillChars value (c :: rest) = c :: fillChars value rest := by
  have hopen : c ≠ '{' := by
    rintro rfl
    cases h
  have hclose : c ≠ '}' := by
    rintro rfl
    cases h
  rw [fillChars]
  · intro tail hc
    exact absurd hc hopen
  · intro tail hc
    exact absurd hc hclose
  · exact hopen

/-- A written character is read as itself. -/
theorem fillChars_doubled (c : Char) (rest : List Char) :
    fillChars value (doubled c ++ rest) = c :: fillChars value rest := by
  unfold doubled
  by_cases h : isBrace c = true
  · rw [if_pos h]
    have hc : c = '{' ∨ c = '}' := by simpa [isBrace] using h
    rcases hc with rfl | rfl
    · show fillChars value ('{' :: '{' :: rest) = _
      rw [fillChars]
    · show fillChars value ('}' :: '}' :: rest) = _
      rw [fillChars]
  · rw [if_neg h]
    exact fillChars_of_not_brace value (by simpa using h) rest

/-- A literal text is read back. -/
theorem fillChars_escaped (text rest : List Char) :
    fillChars value (text.flatMap doubled ++ rest) = text ++ fillChars value rest := by
  induction text with
  | nil => rfl
  | cons c text ih =>
    rw [List.flatMap_cons, List.append_assoc, fillChars_doubled, ih, List.cons_append]

/-- A placeholder is read as what its name stands for, or as it is written. -/
theorem fillChars_braced {name : List Char} (h : name.any isBrace = false) (rest : List Char) :
    fillChars value ('{' :: (name ++ '}' :: rest)) =
      (value name).getD ('{' :: name ++ ['}']) ++ fillChars value rest := by
  rw [List.any_eq_false] at h
  have hclose : '}' ∉ name := fun hmem => h _ hmem rfl
  have hcut : Text.cut? '}' (name ++ '}' :: rest) = some (name, rest) := Text.cut?_append hclose rest
  -- the opening brace is not doubled: behind it stands the name, or the closing brace
  have hsingle : ∀ tail, name ++ '}' :: rest ≠ '{' :: tail := by
    intro tail heq
    cases name with
    | nil => cases heq
    | cons c name =>
      cases heq
      exact h '{' List.mem_cons_self rfl
  rw [fillChars]
  · split
    next front after h' =>
      rw [hcut] at h'
      cases h'
      rfl
    next h' =>
      rw [hcut] at h'
      cases h'
  · exact hsingle

end Reading

/-! ## Reading a template -/

variable {t : SyntaxTree}

/-- The text that is put in the place of a name. -/
def filling (captures : Captures t) (name : List Char) : Option (List Char) :=
  (captures.text? (String.ofList name)).map String.toList

/-- A placeholder stands for what is bound to its name, as a text. -/
theorem Segment.value_placeholder (captures : Captures t) {name : String}
    (plain : name.toList.any isBrace = false) :
    (Segment.placeholder name plain).value captures = (captures.text? name).getD (braced name) := by
  unfold Captures.text?
  cases hget : captures.get? name with
  | none => simp [value, hget]
  | some binding =>
    cases binding with
    | node n => simp [value, hget, n.slice?_span]
    | text text => simp [value, hget]

/-- A written segment is read as what it stands for. -/
theorem fillChars_written (captures : Captures t) (segment : Segment) (rest : List Char) :
    fillChars (filling captures) (segment.written.toList ++ rest) =
      (segment.value captures).toList ++ fillChars (filling captures) rest := by
  cases segment with
  | literal text =>
    show fillChars _ ((escape text).toList ++ rest) = text.toList ++ _
    rw [escape, String.toList_ofList, fillChars_escaped]
  | placeholder name plain =>
    show fillChars _ ((braced name).toList ++ rest) = _
    rw [toList_braced, List.cons_append, List.append_assoc, List.singleton_append,
      fillChars_braced _ plain, Segment.value_placeholder, filling, String.ofList_toList,
      List.cons_append, ← toList_braced, Option.getD_map String.toList]

theorem fillChars_write (captures : Captures t) (segments : List Segment) :
    fillChars (filling captures) (write segments).toList =
      (String.join (segments.map (·.value captures))).toList := by
  unfold write
  induction segments with
  | nil => simp [fillChars]
  | cons segment segments ih =>
    rw [List.map_cons, String.join_cons, String.toList_append, fillChars_written, ih,
      List.map_cons, String.join_cons, String.toList_append]

/-- **Rendering undoes writing.** A template written from segments is rendered as what the segments
stand for, one after another; in particular a text with all its braces doubled is rendered as the text
itself. -/
theorem rendering_undoes_writing (captures : Captures t) :
    (∀ segments : List Segment, render (write segments) captures =
      String.join (segments.map (·.value captures))) ∧
    ∀ text : String, render (escape text) captures = text := by
  have hrender : ∀ segments : List Segment, render (write segments) captures =
      String.join (segments.map (·.value captures)) := by
    intro segments
    show String.ofList (fillChars (filling captures) (write segments).toList) = _
    rw [fillChars_write, String.ofList_toList]
  refine ⟨hrender, fun text => ?_⟩
  have hliteral := hrender [.literal text]
  simpa [write, Segment.written, Segment.value] using hliteral

end Template

end TypeLint
