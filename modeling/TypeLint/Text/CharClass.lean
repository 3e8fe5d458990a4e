/-!
# Character classes given by ranges

A class of characters is a list of closed ranges of code points. `isBlank` is the class of
characters that count as white space everywhere in the library.
-/

namespace TypeLint.Text

/-- The code point of `c` lies in one of the closed ranges. -/
def inRanges (ranges : List (Nat × Nat)) (c : Char) : Bool :=
  ranges.any fun r => r.1 ≤ c.toNat && c.toNat ≤ r.2

/-- The code points with the property White_Space. -/
def blankRanges : List (Nat × Nat) :=
  [(0x9, 0xd), (0x20, 0x20), (0x85, 0x85), (0xa0, 0xa0), (0x1680, 0x1680), (0x2000, 0x200a),
    (0x2028, 0x2029), (0x202f, 0x202f), (0x205f, 0x205f), (0x3000, 0x3000)]

/-- White space: every character with the property White_Space, in any script. -/
def isBlank (c : Char) : Bool := inRanges blankRanges c

/-- A decimal digit of ASCII. -/
def isDigit (c : Char) : Bool := '0' ≤ c && c ≤ '9'

/-- A capital letter of ASCII. -/
def isUpper (c : Char) : Bool := 'A' ≤ c && c ≤ 'Z'

/-- A small letter of ASCII. -/
def isLower (c : Char) : Bool := 'a' ≤ c && c ≤ 'z'

end TypeLint.Text
