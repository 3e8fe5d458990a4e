/-!
# JSON values

The values that reports are written as and read from. An object keeps its fields in order.

Reports are read with `count?`, `str?` and `get?`. `bool?`, `int?`, `arr?` and `ofOption` are for
programs that take their requests as JSON and answer in JSON; nothing in a report is read or written
with them.
-/

namespace TypeLint

/-- A JSON value. A number is an integer, or `decimal d p` for `d` divided by ten to the power `p`,
`0 < p`. -/
inductive Json where
  | null
  | bool (b : Bool)
  | num (n : Int)
  | decimal (digits : Int) (places : Nat)
  | str (s : String)
  | arr (items : List Json)
  | obj (fields : List (String × Json))
  deriving Inhabited

namespace Json

/-- The truth value. -/
def bool? : Json → Option Bool
  | .bool b => some b
  | _ => none

/-- The integer. -/
def int? : Json → Option Int
  | .num n => some n
  | _ => none

/-- The greatest number that counts and offsets can have, one less than two to the power
sixty-four. -/
def maxCount : Nat := 18446744073709551615

/-- The integer, if it can be a count. -/
def count? : Json → Option Nat
  | .num (.ofNat n) => if n ≤ maxCount then some n else none
  | _ => none

/-- The text. -/
def str? : Json → Option String
  | .str s => some s
  | _ => none

/-- The items. -/
def arr? : Json → Option (List Json)
  | .arr items => some items
  | _ => none

/-- The field of an object. -/
def get? (j : Json) (name : String) : Option Json :=
  match j with
  | .obj fields => (fields.find? (·.1 == name)).map (·.2)
  | _ => none

/-- A text, or null when there is none. -/
def ofOption (f : α → Json) : Option α → Json
  | some a => f a
  | none => .null

/-- A natural number. -/
def ofNat (n : Nat) : Json := .num (.ofNat n)

end Json

end TypeLint
