import TypeLint.Pattern.Captures
import TypeLint.Text.Chars

/-!
# Message templates

A template is text with placeholders: a name in braces stands for the captured text of that name, a
doubled brace stands for one brace. A placeholder whose name is not bound is left as it is written,
and so is everything from an opening brace that is never closed.
-/

namespace TypeLint.Template

theorem length_lt_of_cut? {c : Char} {cs front back : List Char}
    (h : Text.cut? c cs = some (front, back)) : back.length < cs.length := by
  induction cs generalizing front with
  | nil => cases h
  | cons d ds ih =>
    unfold Text.cut? at h
    split at h
    · cases h; simp
    · rw [Option.map_eq_some_iff] at h
      obtain ⟨⟨a, b⟩, hab, heq⟩ := h
      cases heq
      have := ih hab
      simp only [List.length_cons]
      omega

/-- Fills in a template, reading what a name stands for from `value`. -/
def fillChars (value : List Char → Option (List Char)) (cs : List Char) : List Char :=
  match cs with
  | [] => []
  | '{' :: '{' :: rest => '{' :: fillChars value rest
  | '}' :: '}' :: rest => '}' :: fillChars value rest
  | '{' :: rest =>
    match _h : Text.cut? '}' rest with
    | some (name, after) =>
      (value name).getD ('{' :: name ++ ['}']) ++ fillChars value after
    | none => '{' :: rest
  | c :: rest => c :: fillChars value rest
termination_by cs.length
decreasing_by
  all_goals simp only [List.length_cons]
  · omega
  · omega
  · have := length_lt_of_cut? _h; omega
  · omega

/-- Fills in a template with captured texts. -/
def render {t : SyntaxTree} (template : String) (captures : Captures t) : String :=
  let value := fun name => (captures.text? (String.ofList name)).map String.toList
  String.ofList (fillChars value template.toList)

end TypeLint.Template
