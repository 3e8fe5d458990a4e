import Mathlib.Data.List.Induction
import Mathlib.Data.List.TakeWhile
import TypeLint.LineIndex

/-!
# Positions count newlines and characters

A line index is made by walking over characters, and a position is looked up by comparing byte
offsets. Here both are counted off the bytes of the text: the line of an offset is one more than the
newline bytes before it, and the column one more than the characters behind the last of them
(`positions_count`). Between characters, a greater offset has a later position.

The bridge is `startsFrom_eq`: a newline is a byte of its own and never a part of another character
(`newline_mem_encode_iff`), so the starts of lines can as well be found byte by byte. A front part of the
bytes has a front part of the starts (`takeWhile_byteStarts`), their number is that of the newlines
(`length_byteStarts`), and the last of them stands in front of the last line (`getLastD_byteStarts`).
-/

namespace TypeLint

/-! ## Bytes and characters -/

namespace Text

/-- The bytes of a text. -/
def bytes (s : String) : List UInt8 := s.toByteArray.data.toList

/-- The byte that ends a line. -/
def newline : UInt8 := 10

theorem bytes_append (s t : String) : bytes (s ++ t) = bytes s ++ bytes t := by
  rw [bytes, String.toByteArray_append, ByteArray.data_append, Array.toList_append]
  rfl

theorem bytes_eq (s : String) : bytes s = s.toList.flatMap String.utf8EncodeChar := by
  rw [← String.ofList_toList (s := s), bytes, String.toByteArray_ofList, List.utf8Encode,
    List.toList_data_toByteArray, String.ofList_toList]

theorem length_bytes (s : String) : (bytes s).length = s.utf8ByteSize := by
  rw [bytes, Array.length_toList, ByteArray.size_data, String.size_toByteArray]

/-- A newline is a byte of its own: no other character is encoded with it. -/
theorem newline_mem_encode_iff {c : Char} : newline ∈ String.utf8EncodeChar c ↔ c = '\n' := by
  constructor
  · intro h
    by_cases hsmall : c.val.toNat ≤ 127
    · unfold String.utf8EncodeChar at h
      dsimp only at h
      rw [if_pos hsmall, List.mem_singleton] at h
      have hten : 10 = c.val.toNat % 2 ^ 8 := by
        rw [← UInt8.toNat_ofNat', ← h]
        rfl
      exact Char.ext (UInt32.toNat_inj.1 (by show c.val.toNat = 10; omega))
    · -- the bytes of a longer encoding are all 128 or more
      have hlarge : ∀ b ∈ String.utf8EncodeChar c, 128 ≤ b.toNat := by
        unfold String.utf8EncodeChar
        dsimp only
        rw [if_neg hsmall]
        split_ifs
        all_goals
          simp only [List.forall_mem_cons, UInt8.toNat_ofNat']
          refine ⟨by omega, by omega, ?_⟩
        · simp
        · exact ⟨by omega, by simp⟩
        · exact ⟨by omega, by omega, by simp⟩
      exact absurd (hlarge _ h) (by decide)
  · rintro rfl
    decide

end Text

/-! ## The last line -/

section LastLine

variable {α : Type} [DecidableEq α] {x : α}

/-- What stands behind the last `x`, or everything if there is none. -/
def lastLine (x : α) (xs : List α) : List α := (xs.reverse.takeWhile (· != x)).reverse

theorem lastLine_append {ys : List α} (h : x ∉ ys) (xs : List α) :
    lastLine x (xs ++ ys) = lastLine x xs ++ ys := by
  have hpass : ∀ y ∈ ys.reverse, (y != x) = true := by
    intro y hy
    rw [bne_iff_ne]
    rintro rfl
    exact h (List.mem_reverse.1 hy)
  rw [lastLine, List.reverse_append, List.takeWhile_append_of_pos hpass, List.reverse_append,
    List.reverse_reverse, lastLine]

theorem lastLine_concat_self (xs : List α) : lastLine x (xs ++ [x]) = [] := by
  rw [lastLine, List.reverse_concat, List.takeWhile_cons_of_neg (by simp), List.reverse_nil]

theorem lastLine_suffix (xs : List α) : lastLine x xs <:+ xs := by
  have hprefix := (List.takeWhile_prefix (l := xs.reverse) (· != x)).reverse
  rwa [List.reverse_reverse] at hprefix

end LastLine

/-- The bytes of the last line are those of its characters. -/
theorem lastLine_flatMap_encode (cs : List Char) :
    lastLine Text.newline (cs.flatMap String.utf8EncodeChar) =
      (lastLine '\n' cs).flatMap String.utf8EncodeChar := by
  induction cs using List.reverseRecOn with
  | nil => rfl
  | append_singleton cs c ih =>
    rw [List.flatMap_append, List.flatMap_singleton]
    by_cases hc : c = '\n'
    · subst hc
      have hencode : String.utf8EncodeChar '\n' = [Text.newline] := rfl
      rw [hencode, lastLine_concat_self, lastLine_concat_self, List.flatMap_nil]
    · have hbytes : Text.newline ∉ String.utf8EncodeChar c := mt Text.newline_mem_encode_iff.1 hc
      have hchars : '\n' ∉ [c] := fun h => hc (List.mem_singleton.1 h).symm
      rw [lastLine_append hbytes, ih, lastLine_append hchars, List.flatMap_append,
        List.flatMap_singleton]

/-! ## Where lines start -/

namespace LineIndex

/-- Where lines start after the newlines among bytes, the first of which has offset `i`. -/
def byteStarts (i : Nat) : List UInt8 → List Nat
  | [] => []
  | b :: bs => if b = Text.newline then (i + 1) :: byteStarts (i + 1) bs else byteStarts (i + 1) bs

theorem byteStarts_append (i : Nat) (bs bs' : List UInt8) :
    byteStarts i (bs ++ bs') = byteStarts i bs ++ byteStarts (i + bs.length) bs' := by
  induction bs generalizing i with
  | nil => rfl
  | cons b bs ih =>
    have hlength : i + (b :: bs).length = i + 1 + bs.length := by
      rw [List.length_cons]
      omega
    rw [List.cons_append, byteStarts, byteStarts, ih, hlength]
    by_cases hb : b = Text.newline
    · rw [if_pos hb, if_pos hb, List.cons_append]
    · rw [if_neg hb, if_neg hb]

theorem byteStarts_of_notMem {i : Nat} {bs : List UInt8} (h : Text.newline ∉ bs) :
    byteStarts i bs = [] := by
  induction bs generalizing i with
  | nil => rfl
  | cons b bs ih =>
    rw [List.mem_cons, not_or] at h
    rw [byteStarts, if_neg (Ne.symm h.1), ih h.2]

/-- Lines start where they start byte by byte. -/
theorem startsFrom_eq (i : Nat) (cs : List Char) :
    startsFrom i cs = byteStarts i (cs.flatMap String.utf8EncodeChar) := by
  induction cs generalizing i with
  | nil => rfl
  | cons c cs ih =>
    rw [List.flatMap_cons, byteStarts_append, String.length_utf8EncodeChar, startsFrom, ih]
    by_cases hc : c = '\n'
    · subst hc
      rfl
    · have hbytes : Text.newline ∉ String.utf8EncodeChar c := mt Text.newline_mem_encode_iff.1 hc
      rw [if_neg hc, byteStarts_of_notMem hbytes, List.nil_append]

theorem lt_of_mem_byteStarts {i s : Nat} {bs : List UInt8} (h : s ∈ byteStarts i bs) : i < s := by
  induction bs generalizing i with
  | nil => cases h
  | cons b bs ih =>
    rw [byteStarts] at h
    split at h
    next =>
      rcases List.mem_cons.1 h with rfl | h
      · omega
      · have := ih h
        omega
    next =>
      have := ih h
      omega

theorem pairwise_byteStarts (i : Nat) (bs : List UInt8) : (byteStarts i bs).Pairwise (· < ·) := by
  induction bs generalizing i with
  | nil => exact .nil
  | cons b bs ih =>
    rw [byteStarts]
    split
    next => exact .cons (fun s hs => lt_of_mem_byteStarts hs) (ih (i + 1))
    next => exact ih (i + 1)

/-- The lines that start up to a place are those that start among the bytes before it. -/
theorem takeWhile_byteStarts (i k : Nat) (bs : List UInt8) :
    (byteStarts i bs).takeWhile (· ≤ i + k) = byteStarts i (bs.take k) := by
  induction bs generalizing i k with
  | nil => rw [List.take_nil]; rfl
  | cons b bs ih =>
    cases k with
    | zero =>
      rw [List.take_zero, byteStarts]
      cases hstarts : byteStarts i (b :: bs) with
      | nil => rfl
      | cons s starts =>
        have hlt : i < s := lt_of_mem_byteStarts (hstarts ▸ List.mem_cons_self)
        exact List.takeWhile_cons_of_neg (by simpa using hlt)
    | succ k =>
      have hoffset : i + (k + 1) = i + 1 + k := by omega
      rw [List.take_succ_cons, byteStarts, byteStarts, hoffset]
      by_cases hb : b = Text.newline
      · rw [if_pos hb, if_pos hb, List.takeWhile_cons_of_pos (by simp), ih]
      · rw [if_neg hb, if_neg hb, ih]

theorem length_byteStarts (i : Nat) (bs : List UInt8) :
    (byteStarts i bs).length = bs.count Text.newline := by
  induction bs generalizing i with
  | nil => rfl
  | cons b bs ih =>
    rw [byteStarts, List.count_cons]
    by_cases hb : b = Text.newline
    · rw [if_pos hb, List.length_cons, ih, if_pos (by simpa using hb)]
    · rw [if_neg hb, ih, if_neg (by simpa using hb), Nat.add_zero]

/-- The last line starts as many bytes before the end as it has. -/
theorem getLastD_byteStarts (bs : List UInt8) :
    (0 :: byteStarts 0 bs).getLastD 0 + (lastLine Text.newline bs).length = bs.length := by
  induction bs using List.reverseRecOn with
  | nil => rfl
  | append_singleton bs b ih =>
    rw [byteStarts_append, Nat.zero_add, List.length_append, List.length_singleton]
    by_cases hb : b = Text.newline
    · subst hb
      rw [lastLine_concat_self]
      show (0 :: byteStarts 0 bs ++ [bs.length + 1]).getLastD 0 + 0 = bs.length + 1
      rw [List.getLastD_concat, Nat.add_zero]
    · have hsingle : Text.newline ∉ [b] := fun h => hb (List.mem_singleton.1 h).symm
      rw [byteStarts_of_notMem hsingle, List.append_nil, lastLine_append hsingle, List.length_append,
        ← Nat.add_assoc, ih, List.length_singleton]

/-! ## Looking up -/

variable (source : String) {m : Nat}

theorem starts_ofText : (ofText source).starts = 0 :: byteStarts 0 (Text.bytes source) := by
  rw [ofText, startsFrom_eq, ← Text.bytes_eq]

theorem upTo_ofText (m : Nat) :
    (ofText source).upTo m = 0 :: byteStarts 0 ((Text.bytes source).take m) := by
  have hfront := takeWhile_byteStarts 0 m (Text.bytes source)
  rw [Nat.zero_add] at hfront
  rw [upTo, starts_ofText, List.takeWhile_cons_of_pos (by simp), hfront]

theorem length_upTo (m : Nat) :
    ((ofText source).upTo m).length = 1 + ((Text.bytes source).take m).count Text.newline := by
  rw [upTo_ofText, List.length_cons, length_byteStarts, Nat.add_comm]

/-- The line that holds an offset starts behind the last newline before it. -/
theorem lineStart_add (hm : m ≤ source.utf8ByteSize) :
    (ofText source).lineStart m +
      (lastLine Text.newline ((Text.bytes source).take m)).length = m := by
  have hlength : ((Text.bytes source).take m).length = m := by
    rw [List.length_take, Text.length_bytes, Nat.min_eq_left hm]
  rw [lineStart, upTo_ofText, getLastD_byteStarts, hlength]

/-- Inside a character, columns count bytes. -/
theorem position_column_of_not_boundary {offset : Nat}
    (h : ¬ Text.IsBoundary source (min offset source.utf8ByteSize)) :
    ((ofText source).position source offset).column =
      1 + (lastLine Text.newline
        ((Text.bytes source).take (min offset source.utf8ByteSize))).length := by
  have hslice : ∀ a, Text.slice? source a (min offset source.utf8ByteSize) = none := by
    intro a
    rw [Text.slice?, dif_neg fun hab => h hab.2.2]
  have hstart := lineStart_add source (Nat.min_le_right offset source.utf8ByteSize)
  unfold position
  dsimp only
  rw [hslice]
  dsimp only
  rw [Nat.sub_eq_of_eq_add' hstart.symm, Nat.add_comm]

/-- Between characters, columns count characters. -/
theorem position_column_append (p q : String) :
    ((ofText (p ++ q)).position (p ++ q) p.utf8ByteSize).column =
      1 + (lastLine '\n' p.toList).length := by
  have htake : (Text.bytes (p ++ q)).take p.utf8ByteSize = Text.bytes p := by
    rw [Text.bytes_append, ← Text.length_bytes, List.take_left]
  obtain ⟨front, hfront⟩ := lastLine_suffix (x := '\n') p.toList
  have hp : p = String.ofList front ++ String.ofList (lastLine '\n' p.toList) := by
    rw [← String.ofList_append, hfront, String.ofList_toList]
  have hsize : (lastLine Text.newline (Text.bytes p)).length =
      (String.ofList (lastLine '\n' p.toList)).utf8ByteSize := by
    rw [Text.bytes_eq, lastLine_flatMap_encode, ← Text.length_bytes, Text.bytes_eq,
      String.toList_ofList]
  have hle : p.utf8ByteSize ≤ (p ++ q).utf8ByteSize := by
    rw [String.utf8ByteSize_append]
    omega
  have hstart := lineStart_add (p ++ q) hle
  rw [htake, hsize] at hstart
  have hslice : Text.slice? (p ++ q) ((ofText (p ++ q)).lineStart p.utf8ByteSize) p.utf8ByteSize =
      some (String.ofList (lastLine '\n' p.toList)) := by
    have hsum := congrArg String.utf8ByteSize hp
    rw [String.utf8ByteSize_append] at hsum
    exact Text.slice?_eq_some_iff.2 ⟨String.ofList front, q, by rw [← hp], by omega, hsum⟩
  unfold position
  dsimp only
  rw [Nat.min_eq_left hle, hslice]
  dsimp only
  rw [← String.length_toList, String.toList_ofList, Nat.add_comm]

/-! ## Searching -/

/-- What a search among ascending numbers can answer: the place where the number stands, or the place
where it would have to be put in. -/
inductive Searched (starts : List Nat) (offset : Nat) : Except Nat Nat → Prop where
  | found {i : Nat} (here : starts[i]? = some offset) : Searched starts offset (.ok i)
  | missing {i : Nat} (inside : i ≤ starts.length) (before : ∀ s ∈ starts.take i, s < offset)
      (behind : ∀ s ∈ starts.drop i, offset < s) : Searched starts offset (.error i)

/-- The line that the answer of a search means, counted from zero: where the offset would be put in, the
line before. There is none before the first. -/
def lineOf? : Except Nat Nat → Option Nat
  | .ok i => some i
  | .error 0 => none
  | .error (i + 1) => some i

theorem starts_eq_append (hm : m ≤ source.utf8ByteSize) :
    (ofText source).starts = (ofText source).upTo m ++ byteStarts m ((Text.bytes source).drop m) := by
  have hlength : 0 + ((Text.bytes source).take m).length = m := by
    rw [Nat.zero_add, List.length_take, Text.length_bytes, Nat.min_eq_left hm]
  have hsplit := byteStarts_append 0 ((Text.bytes source).take m) ((Text.bytes source).drop m)
  rw [List.take_append_drop, hlength] at hsplit
  rw [starts_ofText, upTo_ofText, hsplit, List.cons_append]

theorem exists_searched (hm : m ≤ source.utf8ByteSize) : ∃ r, Searched (ofText source).starts m r := by
  by_cases hmem : m ∈ (ofText source).starts
  · obtain ⟨i, hi⟩ := List.mem_iff_getElem?.1 hmem
    exact ⟨.ok i, .found hi⟩
  · have hsplit := starts_eq_append source hm
    refine ⟨.error ((ofText source).upTo m).length, .missing ?_ (fun s hs => ?_) fun s hs => ?_⟩
    · rw [hsplit, List.length_append]
      omega
    · rw [hsplit, List.take_left] at hs
      have hle : s ≤ m := by simpa using List.mem_takeWhile_imp hs
      have hne : s ≠ m := by
        rintro rfl
        exact hmem (hsplit ▸ List.mem_append_left _ hs)
      omega
    · rw [hsplit, List.drop_left] at hs
      exact lt_of_mem_byteStarts hs

/-- A front part up to the offset, with only greater numbers behind it, is what is taken. -/
theorem upTo_of_split {lines : LineIndex} {front back : List Nat} (h : lines.starts = front ++ back)
    (hfront : ∀ s ∈ front, s ≤ m) (hback : ∀ s ∈ back, m < s) : lines.upTo m = front := by
  rw [upTo, h, List.takeWhile_append_of_pos fun s hs => by simpa using hfront s hs]
  cases back with
  | nil => rw [List.takeWhile_nil, List.append_nil]
  | cons s back =>
    have hlt := hback s List.mem_cons_self
    rw [List.takeWhile_cons_of_neg (by simpa using hlt), List.append_nil]

/-- A search finds the line that holds the offset, and never falls below the first. -/
theorem lineOf?_searched {r : Except Nat Nat} (h : Searched (ofText source).starts m r) :
    ∃ i, lineOf? r = some i ∧ ((ofText source).upTo m).length = i + 1 := by
  have hsorted : (ofText source).starts.Pairwise (· < ·) := by
    rw [starts_ofText]
    exact .cons (fun s hs => lt_of_mem_byteStarts hs) (pairwise_byteStarts 0 _)
  cases h with
  | @found i here =>
    obtain ⟨hi, hget⟩ := List.getElem?_eq_some_iff.1 here
    have hsplit : (ofText source).starts =
        ((ofText source).starts.take i ++ [m]) ++ (ofText source).starts.drop (i + 1) := by
      rw [List.append_assoc, List.singleton_append, ← hget, ← List.drop_eq_getElem_cons hi,
        List.take_append_drop]
    rw [hsplit, List.pairwise_append, List.pairwise_append] at hsorted
    obtain ⟨⟨-, -, hbefore⟩, -, hbehind⟩ := hsorted
    have hm : m ∈ [m] := List.mem_singleton_self m
    have hupTo : (ofText source).upTo m = (ofText source).starts.take i ++ [m] := by
      refine upTo_of_split hsplit (fun s hs => ?_) (hbehind m (List.mem_append_right _ hm))
      rcases List.mem_append.1 hs with hs | hs
      · exact Nat.le_of_lt (hbefore s hs m hm)
      · exact Nat.le_of_eq (List.mem_singleton.1 hs)
    refine ⟨i, rfl, ?_⟩
    rw [hupTo, List.length_append, List.length_take, Nat.min_eq_left (Nat.le_of_lt hi),
      List.length_singleton]
  | @missing i inside before behind =>
    have hupTo : (ofText source).upTo m = (ofText source).starts.take i :=
      upTo_of_split (List.take_append_drop i _).symm (fun s hs => Nat.le_of_lt (before s hs)) behind
    have hlength : ((ofText source).upTo m).length = i := by
      rw [hupTo, List.length_take, Nat.min_eq_left inside]
    cases i with
    | zero =>
      rw [length_upTo] at hlength
      omega
    | succ i => exact ⟨i, rfl, hlength⟩

/-- The start of the line that holds an offset stands at the place of that line. -/
theorem getElem?_starts {i : Nat} (hm : m ≤ source.utf8ByteSize)
    (hi : ((ofText source).upTo m).length = i + 1) :
    (ofText source).starts[i]? = some ((ofText source).lineStart m) := by
  have hlt : i < ((ofText source).upTo m).length := by omega
  have hlast : ((ofText source).upTo m).getLast? = ((ofText source).upTo m)[i]? := by
    rw [List.getLast?_eq_getElem?, hi, Nat.add_sub_cancel]
  rw [starts_eq_append source hm, List.getElem?_append_left hlt, lineStart,
    List.getLastD_eq_getLast?, hlast, List.getElem?_eq_getElem hlt, Option.getD_some]

end LineIndex

/-! ## Positions -/

/-- The position counts the newlines before byte `m` of the text and, behind the last of them, the
characters before it, or the bytes if `m` lies inside a character. -/
structure Position.Counts (source : String) (m : Nat) (pos : Position) : Prop where
  line : pos.line = 1 + ((Text.bytes source).take m).count Text.newline
  column : ∀ p q, source = p ++ q → p.utf8ByteSize = m →
    pos.column = 1 + (lastLine '\n' p.toList).length
  inside : ¬ Text.IsBoundary source m →
    pos.column = 1 + (lastLine Text.newline ((Text.bytes source).take m)).length

/-- The first position comes before the second: it is on an earlier line, or further left. -/
def Position.Before (p q : Position) : Prop :=
  p.line < q.line ∨ p.line = q.line ∧ p.column < q.column

theorem Position.Before.ne {p q : Position} (h : p.Before q) : p ≠ q := by
  rintro rfl
  rcases h with h | h
  · exact Nat.lt_irrefl _ h
  · exact Nat.lt_irrefl _ h.2

namespace LineIndex

theorem position_counts (source : String) (offset : Nat) :
    ((ofText source).position source offset).Counts source (min offset source.utf8ByteSize) := by
  refine ⟨length_upTo source _, fun p q hsource hm => ?_, position_column_of_not_boundary source⟩
  have hmin : (ofText source).position source offset =
      (ofText source).position source (min offset source.utf8ByteSize) := by
    rw [position, position, Nat.min_assoc, Nat.min_self]
  rw [hmin, ← hm, hsource, position_column_append]

/-- The position at the end of a front part of the text depends on that part only. -/
theorem position_append (p q : String) :
    (ofText (p ++ q)).position (p ++ q) p.utf8ByteSize =
      ⟨1 + (Text.bytes p).count Text.newline, 1 + (lastLine '\n' p.toList).length⟩ := by
  have hle : p.utf8ByteSize ≤ (p ++ q).utf8ByteSize := by
    rw [String.utf8ByteSize_append]
    omega
  have hline := (position_counts (p ++ q) p.utf8ByteSize).line
  rw [Nat.min_eq_left hle, Text.bytes_append, ← Text.length_bytes, List.take_left,
    Text.length_bytes] at hline
  rw [← hline, ← position_column_append p q]

/-- Between characters, positions come in the order of the offsets. -/
theorem position_before {source : String} {a b : Nat} (ha : Text.IsBoundary source a)
    (hb : Text.IsBoundary source b) (hab : a < b) :
    ((ofText source).position source a).Before ((ofText source).position source b) := by
  obtain ⟨r, hr⟩ : ∃ r, Text.slice? source a b = some r :=
    ⟨_, dif_pos ⟨Nat.le_of_lt hab, ha, hb⟩⟩
  obtain ⟨p, q, rfl, rfl, rfl⟩ := Text.slice?_eq_some_iff.1 hr
  have hfront := position_append p (r ++ q)
  have hback := position_append (p ++ r) q
  rw [← String.append_assoc] at hfront
  rw [String.utf8ByteSize_append, Text.bytes_append, List.count_append, String.toList_append] at hback
  rw [hfront, hback]
  by_cases hline : Text.newline ∈ Text.bytes r
  · have hpos := List.count_pos_iff.2 hline
    exact Or.inl (by dsimp only; omega)
  · have hchars : '\n' ∉ r.toList := by
      intro hmem
      rw [Text.bytes_eq] at hline
      exact hline (List.mem_flatMap.2 ⟨'\n', hmem, Text.newline_mem_encode_iff.2 rfl⟩)
    have hne : r.toList ≠ [] := by
      intro hnil
      rw [String.toList_eq_nil_iff] at hnil
      subst hnil
      simp at hab
    have hpos := List.length_pos_iff.2 hne
    refine Or.inr ⟨?_, ?_⟩
    · rw [List.count_eq_zero.2 hline, Nat.add_zero]
    · dsimp only
      rw [lastLine_append hchars, List.length_append]
      omega

end LineIndex

/-- **Positions count newlines and characters.** An offset past the end counts as the end. Up to it, the
line is one more than the newlines and the column one more than the characters behind the last of them,
or the bytes if the offset lies inside a character. Whatever a search for the offset among the starts of
lines may answer, there is such an answer, it always means a line, and that line is the one counted and
starts where the column is counted from. Between characters a greater offset has a later position, so no
two have the same. -/
theorem positions_count (source : String) :
    (∀ offset,
      let m := min offset source.utf8ByteSize
      let lines := LineIndex.ofText source
      let pos := lines.position source offset
      pos.Counts source m ∧
      (∃ r, LineIndex.Searched lines.starts m r) ∧
      ∀ r, LineIndex.Searched lines.starts m r → ∃ i, LineIndex.lineOf? r = some i ∧
        pos.line = i + 1 ∧ lines.starts[i]? = some (lines.lineStart m)) ∧
    (∀ a b, Text.IsBoundary source a → Text.IsBoundary source b → a < b →
      ((LineIndex.ofText source).position source a).Before
        ((LineIndex.ofText source).position source b)) ∧
    ∀ a b, Text.IsBoundary source a → Text.IsBoundary source b →
      (LineIndex.ofText source).position source a = (LineIndex.ofText source).position source b →
      a = b := by
  refine ⟨fun offset => ?_, fun a b ha hb hab => LineIndex.position_before ha hb hab, ?_⟩
  · have hm := Nat.min_le_right offset source.utf8ByteSize
    refine ⟨LineIndex.position_counts source offset, LineIndex.exists_searched source hm,
      fun r hr => ?_⟩
    obtain ⟨i, hline, hlength⟩ := LineIndex.lineOf?_searched source hr
    exact ⟨i, hline, hlength, LineIndex.getElem?_starts source hm hlength⟩
  · intro a b ha hb heq
    rcases Nat.lt_trichotomy a b with hab | hab | hab
    · exact absurd heq (LineIndex.position_before ha hb hab).ne
    · exact hab
    · exact absurd heq.symm (LineIndex.position_before hb ha hab).ne

end TypeLint
