/-!
# Content hash

The hash that ties a fix to the exact text it was made for: SipHash with one round per word and three
at the end, under the key zero, of the bytes of the text followed by one byte `ff`.
-/

namespace TypeLint.ContentHash

/-- The four words of state. -/
structure State where
  v0 : UInt64
  v1 : UInt64
  v2 : UInt64
  v3 : UInt64
  deriving DecidableEq, Repr

/-- Turns a word to the left by `n` bits, `0 < n < 64`. -/
def rotate (x : UInt64) (n : UInt64) : UInt64 := (x <<< n) ||| (x >>> (64 - n))

/-- One round of mixing. -/
def round (s : State) : State :=
  let v0 := s.v0 + s.v1
  let v1 := rotate s.v1 13 ^^^ v0
  let v0 := rotate v0 32
  let v2 := s.v2 + s.v3
  let v3 := rotate s.v3 16 ^^^ v2
  let v0 := v0 + v3
  let v3 := rotate v3 21 ^^^ v0
  let v2 := v2 + v1
  let v1 := rotate v1 17 ^^^ v2
  let v2 := rotate v2 32
  ⟨v0, v1, v2, v3⟩

/-- Takes in one word. -/
def absorb (s : State) (word : UInt64) : State :=
  let s := round { s with v3 := s.v3 ^^^ word }
  { s with v0 := s.v0 ^^^ word }

/-- The state under the key zero. -/
def start : State :=
  ⟨0x736f6d6570736575, 0x646f72616e646f6d, 0x6c7967656e657261, 0x7465646279746573⟩

/-- The word that bytes make, the first byte lowest. -/
def word : List UInt8 → UInt64
  | [] => 0
  | b :: bs => b.toUInt64 ||| (word bs <<< 8)

/-- Takes in the bytes eight at a time; the last word holds what is left, below the byte count. -/
def absorbAll (count : Nat) (s : State) : List UInt8 → State
  | b0 :: b1 :: b2 :: b3 :: b4 :: b5 :: b6 :: b7 :: rest =>
    absorbAll count (absorb s (word [b0, b1, b2, b3, b4, b5, b6, b7])) rest
  | rest => absorb s (word rest ||| (count.toUInt64 <<< 56))

/-- The hash of a list of bytes. -/
def ofBytes (bytes : List UInt8) : UInt64 :=
  let s := absorbAll bytes.length start bytes
  let s := round (round (round { s with v2 := s.v2 ^^^ 0xff }))
  s.v0 ^^^ s.v1 ^^^ s.v2 ^^^ s.v3

end TypeLint.ContentHash

/-- The hash of a text. -/
def TypeLint.contentHash (source : String) : UInt64 :=
  ContentHash.ofBytes (source.toByteArray.data.toList ++ [0xff])
