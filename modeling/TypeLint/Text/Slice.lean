/-!
# Text by byte offset

Every place in a source file is named by a byte offset into its UTF-8 text, so the text between
two offsets need not exist: an offset may lie past the end or inside a character. `slice?` is the
one reader the library uses, and `slice?_eq_some_iff` is all that is needed to reason about it:

> `slice? s a b = some t` exactly when `s` is `p ++ t ++ q`, where `p` ends at byte `a` and `t` at
> byte `b`.
-/

namespace TypeLint.Text

/-- Byte `i` falls between two characters of `s` or at one of its ends. -/
def IsBoundary (s : String) (i : Nat) : Prop := String.Pos.Raw.IsValid s ⟨i⟩

instance (s : String) (i : Nat) : Decidable (IsBoundary s i) :=
  inferInstanceAs (Decidable (String.Pos.Raw.IsValid s ⟨i⟩))

/-- The text from byte `a` up to byte `b`, if both fall between characters and `a` is not past
`b`. -/
def slice? (s : String) (a b : Nat) : Option String :=
  if h : a ≤ b ∧ IsBoundary s a ∧ IsBoundary s b then
    some (s.extract ⟨⟨a⟩, h.2.1⟩ ⟨⟨b⟩, h.2.2⟩)
  else
    none

/-- An offset is a boundary exactly when some front part of the text ends there. -/
theorem isBoundary_iff {s : String} {i : Nat} :
    IsBoundary s i ↔ ∃ p q, s = p ++ q ∧ i = p.utf8ByteSize := by
  rw [IsBoundary, String.Pos.Raw.isValid_iff_exists_append]
  simp [String.Pos.Raw.ext_iff]

theorem IsBoundary.le_size {s : String} {i : Nat} (h : IsBoundary s i) : i ≤ s.utf8ByteSize := by
  obtain ⟨p, q, rfl, rfl⟩ := isBoundary_iff.1 h
  simp

/-- Slicing finds the middle of a text in three parts. -/
theorem slice?_append (p t q : String) :
    slice? (p ++ t ++ q) p.utf8ByteSize (p.utf8ByteSize + t.utf8ByteSize) = some t := by
  have ha : IsBoundary (p ++ t ++ q) p.utf8ByteSize :=
    isBoundary_iff.2 ⟨p, t ++ q, by rw [String.append_assoc], rfl⟩
  have hb : IsBoundary (p ++ t ++ q) (p.utf8ByteSize + t.utf8ByteSize) :=
    isBoundary_iff.2 ⟨p ++ t, q, rfl, by simp⟩
  rw [slice?, dif_pos ⟨by omega, ha, hb⟩, Option.some.injEq, ← String.toByteArray_inj]
  show (p.toByteArray ++ t.toByteArray ++ q.toByteArray).extract p.utf8ByteSize
    (p.utf8ByteSize + t.utf8ByteSize) = t.toByteArray
  rw [ByteArray.append_assoc, ← String.size_toByteArray, ← String.size_toByteArray]
  have h := ByteArray.extract_append_size_add (a := p.toByteArray)
    (b := t.toByteArray ++ q.toByteArray) (i := 0) (j := t.toByteArray.size)
  rw [Nat.add_zero] at h
  rw [h, ByteArray.extract_append_eq_left rfl]

/-- A slice is the middle of the text, between the parts that end and start at the offsets. -/
theorem slice?_eq_some_iff {s t : String} {a b : Nat} :
    slice? s a b = some t ↔
      ∃ p q, s = p ++ t ++ q ∧ a = p.utf8ByteSize ∧ b = p.utf8ByteSize + t.utf8ByteSize := by
  constructor
  · intro h
    unfold slice? at h
    split at h
    · next hab =>
      obtain ⟨hle, ha, hb⟩ := hab
      have hsize := hb.le_size
      cases h
      refine ⟨s.extract s.startPos ⟨⟨a⟩, ha⟩, s.extract ⟨⟨b⟩, hb⟩ s.endPos, ?_, ?_, ?_⟩
      · rw [← String.toByteArray_inj]
        simp only [String.toByteArray_append, String.toByteArray_extract,
          ByteArray.extract_append_extract, String.offset_startPos, String.offset_endPos,
          String.Pos.Raw.byteIdx_zero, String.byteIdx_rawEndPos]
        rw [← String.size_toByteArray] at hsize ⊢
        rw [Nat.min_eq_left (Nat.zero_le _), Nat.max_eq_right hle,
          ByteArray.extract_append_extract, Nat.min_eq_left (Nat.zero_le _),
          Nat.max_eq_right hsize, ByteArray.extract_zero_size]
      · simp [← String.size_toByteArray, ByteArray.size_extract] at hsize ⊢
        omega
      · simp [← String.size_toByteArray, ByteArray.size_extract] at hsize ⊢
        omega
    · cases h
  · rintro ⟨p, q, rfl, rfl, rfl⟩
    exact slice?_append p t q

end TypeLint.Text
