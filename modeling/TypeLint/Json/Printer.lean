import TypeLint.Json.Basic
import TypeLint.Text.Quoted

/-!
# JSON as text

Values over several lines: two blanks for every level, one item or field on a line, and nothing
between the brackets of an empty list or object. Quotes, backslashes and controls are escaped; every
other character stands for itself.
-/

namespace TypeLint.Json

/-- How one character is written in a text. -/
def escapeChar (c : Char) : String :=
  if c = '"' then "\\\""
  else if c = '\\' then "\\\\"
  else if c = '\x08' then "\\b"
  else if c = '\x0c' then "\\f"
  else if c = '\n' then "\\n"
  else if c = '\r' then "\\r"
  else if c = '\t' then "\\t"
  else if c.toNat < 0x20 then "\\u" ++ Text.hexPadded 4 c.toNat
  else c.toString

/-- A text in quotes. -/
def quoted (s : String) : String := "\"" ++ String.join (s.toList.map escapeChar) ++ "\""

/-- The integer `digits` divided by ten to the power `places`, written out. -/
def decimalText (digits : Int) (places : Nat) : String :=
  let all := (toString digits.natAbs).toList
  let all := List.replicate (places + 1 - all.length) '0' ++ all
  let front := all.take (all.length - places)
  let back := all.drop (all.length - places)
  (if digits < 0 then "-" else "") ++ String.ofList front ++ "." ++ String.ofList back

/-- A new line and the blanks of a level. -/
def newline (level : Nat) : String := "\n" ++ String.ofList (List.replicate (2 * level) ' ')

mutual

/-- A value that starts at a level. -/
def prettyAt (level : Nat) : Json → String
  | .null => "null"
  | .bool true => "true"
  | .bool false => "false"
  | .num n => toString n
  | .decimal digits places => decimalText digits places
  | .str s => quoted s
  | .arr [] => "[]"
  | .arr (item :: items) =>
    "[" ++ newline (level + 1) ++ prettyAt (level + 1) item ++ prettyItems level items
      ++ newline level ++ "]"
  | .obj [] => "\x7b\x7d"
  | .obj ((name, value) :: fields) =>
    "\x7b" ++ newline (level + 1) ++ quoted name ++ ": " ++ prettyAt (level + 1) value
      ++ prettyFields level fields ++ newline level ++ "\x7d"

/-- The items after the first. -/
def prettyItems (level : Nat) : List Json → String
  | [] => ""
  | item :: items =>
    "," ++ newline (level + 1) ++ prettyAt (level + 1) item ++ prettyItems level items

/-- The fields after the first. -/
def prettyFields (level : Nat) : List (String × Json) → String
  | [] => ""
  | (name, value) :: fields =>
    "," ++ newline (level + 1) ++ quoted name ++ ": " ++ prettyAt (level + 1) value
      ++ prettyFields level fields

end

/-- A value over several lines. -/
def pretty (j : Json) : String := prettyAt 0 j

end TypeLint.Json
