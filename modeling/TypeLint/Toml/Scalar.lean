import TypeLint.Text.CharClass
import TypeLint.Toml.Value

/-!
# TOML numbers, dates and strings

Numbers, truth values and dates are read from the whole run of characters that can belong to one.
Strings are read character by character; each reader answers the text and what follows the closing
quotes.
-/

namespace TypeLint.Toml

open Text (isDigit)

/-! ## Runs of digits -/

/-- The value of a digit in bases up to sixteen. -/
def digitValue? (c : Char) : Option Nat :=
  if '0' ≤ c ∧ c ≤ '9' then some (c.toNat - '0'.toNat)
  else if 'a' ≤ c ∧ c ≤ 'f' then some (c.toNat - 'a'.toNat + 10)
  else if 'A' ≤ c ∧ c ≤ 'F' then some (c.toNat - 'A'.toNat + 10)
  else none

/-- The digits of a run; an underscore may stand between two digits. -/
def digits? (base : Nat) : List Char → Option (List Nat)
  | [] => none
  | [c] => (digitValue? c).bind fun d => if d < base then some [d] else none
  | c :: '_' :: rest => do
    let d ← digitValue? c
    if d < base then return d :: (← digits? base rest) else none
  | c :: rest => do
    let d ← digitValue? c
    if d < base then return d :: (← digits? base rest) else none

/-- The number that digits stand for. -/
def ofDigits (base : Nat) (digits : List Nat) : Nat := digits.foldl (fun n d => n * base + d) 0

/-- The greatest integer, one less than two to the power sixty-three. -/
def maxInteger : Nat := 9223372036854775807

/-- A sign and what follows it. -/
def takeSign : List Char → Bool × List Char
  | '-' :: rest => (true, rest)
  | '+' :: rest => (false, rest)
  | cs => (false, cs)

/-- The decimal digits of a whole number: zero, or no zero in front. -/
def wholeDigits? (cs : List Char) : Option (List Nat) := do
  let ds ← digits? 10 cs
  match ds with
  | 0 :: _ :: _ => none
  | ds => some ds

/-- An integer in one of the four bases. -/
def integer? (cs : List Char) : Option Int :=
  let unsigned (base : Nat) (cs : List Char) : Option Int := do
    let n := ofDigits base (← digits? base cs)
    if n ≤ maxInteger then some (.ofNat n) else none
  match cs with
  | '0' :: 'x' :: rest => unsigned 16 rest
  | '0' :: 'o' :: rest => unsigned 8 rest
  | '0' :: 'b' :: rest => unsigned 2 rest
  | cs => do
    let (negative, rest) := takeSign cs
    let n := ofDigits 10 (← wholeDigits? rest)
    if negative then (if n ≤ maxInteger + 1 then some (-(n : Int)) else none)
    else if n ≤ maxInteger then some (.ofNat n) else none

/-- A positive decimal is too great for a double: it is at least halfway from the greatest double to
the next power of two. Its digits stand for `mantissa` times ten to the power `exponent`. -/
def overflows (mantissa : Nat) (exponent : Int) : Bool :=
  let limit := Nat.pow 2 1024 - Nat.pow 2 970
  let size : Int := (Nat.toDigits 10 mantissa).length
  if mantissa = 0 ∨ size + exponent < 300 then false
  else if 400 < size + exponent then true
  else
    match exponent with
    | .ofNat e => limit ≤ mantissa * Nat.pow 10 e
    | .negSucc e => limit * Nat.pow 10 (e + 1) ≤ mantissa

/-- The text before the first character that satisfies `p` and the text from it on. -/
def splitBefore (p : Char → Bool) (cs : List Char) : List Char × List Char :=
  (cs.takeWhile (!p ·), cs.dropWhile (!p ·))

/-- The exponent of a fraction, without its mark. -/
def exponent? (cs : List Char) : Option Int := do
  let (negative, rest) := takeSign cs
  let n : Int := .ofNat (ofDigits 10 (← digits? 10 rest))
  return if negative then -n else n

/-- The run is a number with a fraction or an exponent that is not too great, or a special one. -/
def isFloat (cs : List Char) : Bool :=
  let (negative, rest) := takeSign cs
  if rest = ['i', 'n', 'f'] ∨ rest = ['n', 'a', 'n'] then true
  else
    let (number, power) := splitBefore (fun c => c = 'e' || c = 'E') rest
    let (whole, fraction) := splitBefore (· = '.') number
    let read : Option (Nat × Int) := do
      let whole ← wholeDigits? whole
      let fraction ← match fraction with
        | [] => some []
        | _ :: ds => digits? 10 ds
      let exponent ← match power with
        | [] => some 0
        | _ :: ds => exponent? ds
      return (ofDigits 10 (whole ++ fraction), exponent - fraction.length)
    if fraction = [] ∧ power = [] then false
    else read.any fun (m, e) => negative || !overflows m e

/-! ## Dates and times -/

/-- A number of exactly `n` digits and what follows it. -/
def fixedDigits? (n : Nat) (cs : List Char) : Option (Nat × List Char) :=
  let front := cs.take n
  if front.length = n ∧ front.all isDigit then
    some (ofDigits 10 (front.map fun c => c.toNat - '0'.toNat), cs.drop n)
  else none

/-- What follows a character that has to be there. -/
def expect? (c : Char) : List Char → Option (List Char)
  | d :: rest => if d = c then some rest else none
  | [] => none

/-- The number of days of a month. -/
def daysIn (year month : Nat) : Nat :=
  if month = 2 then
    if (year % 4 = 0 ∧ year % 100 ≠ 0) ∨ year % 400 = 0 then 29 else 28
  else if month ∈ [4, 6, 9, 11] then 30
  else 31

/-- What follows a date. -/
def afterDate? (cs : List Char) : Option (List Char) := do
  let (year, cs) ← fixedDigits? 4 cs
  let (month, cs) ← fixedDigits? 2 (← expect? '-' cs)
  let (day, cs) ← fixedDigits? 2 (← expect? '-' cs)
  if 1 ≤ month ∧ month ≤ 12 ∧ 1 ≤ day ∧ day ≤ daysIn year month then some cs else none

/-- What follows a time of day; a minute may have a second too many. -/
def afterTime? (cs : List Char) : Option (List Char) := do
  let (hour, cs) ← fixedDigits? 2 cs
  let (minute, cs) ← fixedDigits? 2 (← expect? ':' cs)
  let (second, cs) ← fixedDigits? 2 (← expect? ':' cs)
  if hour ≤ 23 ∧ minute ≤ 59 ∧ second ≤ 60 then
    match cs with
    | '.' :: rest => if (rest.takeWhile isDigit).isEmpty then none else some (rest.dropWhile isDigit)
    | cs => some cs
  else none

/-- The run is nothing or the distance from universal time. -/
def isOffset : List Char → Bool
  | [] => true
  | ['Z'] => true
  | ['z'] => true
  | sign :: cs =>
    let ends : Option (List Char) := do
      let (hour, cs) ← fixedDigits? 2 cs
      let (minute, cs) ← fixedDigits? 2 (← expect? ':' cs)
      if hour ≤ 23 ∧ minute ≤ 59 then some cs else none
    (sign = '+' || sign = '-') && ends == some []

/-- The run is a time of day. -/
def isTime (cs : List Char) : Bool := afterTime? cs == some []

/-- The run is a time of day that follows a date. -/
def isTimeAfterDate (cs : List Char) : Bool := (afterTime? cs).any isOffset

/-- The run is a date. -/
def isDate (cs : List Char) : Bool := afterDate? cs == some []

/-- The run is a date, a time of day, or both with `T` between them. -/
def isDateTime (cs : List Char) : Bool :=
  isDate cs || isTime cs ||
    match afterDate? cs with
    | some (c :: rest) => (c = 'T' || c = 't') && isTimeAfterDate rest
    | _ => false

/-! ## Scalars -/

/-- The characters that numbers, truth values and dates are made of. -/
def isScalarChar (c : Char) : Bool :=
  isDigit c || Text.isLower c || Text.isUpper c || c ∈ ['_', '+', '-', '.', ':']

/-- A number, truth value or date, and what follows it. A blank may stand between a date and a time. -/
def scalar? (cs : List Char) : Option (Value × List Char) :=
  let run := cs.takeWhile isScalarChar
  let rest := cs.dropWhile isScalarChar
  if run = "true".toList then some (.boolean true, rest)
  else if run = "false".toList then some (.boolean false, rest)
  else if isDate run then
    match rest with
    | ' ' :: more =>
      let time := more.takeWhile isScalarChar
      if time.isEmpty then some (.dateTime, rest)
      else if isTimeAfterDate time then some (.dateTime, more.dropWhile isScalarChar)
      else none
    | rest => some (.dateTime, rest)
  else if isDateTime run then some (.dateTime, rest)
  else if isFloat run then some (.float, rest)
  else (integer? run).map fun i => (.integer i, rest)

/-! ## Strings -/

/-- A character that may stand in a comment or a string: a tab or anything that is no control. -/
def isPlain (c : Char) : Bool := c = '\t' || (' ' ≤ c && c.toNat != 0x7f)

/-- What follows a line end. -/
def newline? : List Char → Option (List Char)
  | '\n' :: rest => some rest
  | '\r' :: '\n' :: rest => some rest
  | _ => none

/-- The text without blanks at its front. -/
def skipBlanks (cs : List Char) : List Char := cs.dropWhile fun c => c = ' ' || c = '\t'

/-- The character with a code point of `n` digits, and what follows them. -/
def codePoint? (n : Nat) (cs : List Char) : Option (Char × List Char) := do
  let front := cs.take n
  let ds ← front.mapM digitValue?
  let code := ofDigits 16 ds
  if front.length = n ∧ code.isValidChar then some (Char.ofNat code, cs.drop n) else none

/-- The character that an escape stands for, and what follows it; the backslash is taken already. -/
def escape? : List Char → Option (Char × List Char)
  | 'b' :: rest => some ('\x08', rest)
  | 't' :: rest => some ('\t', rest)
  | 'n' :: rest => some ('\n', rest)
  | 'f' :: rest => some ('\x0c', rest)
  | 'r' :: rest => some ('\r', rest)
  | '"' :: rest => some ('"', rest)
  | '\\' :: rest => some ('\\', rest)
  | 'u' :: rest => codePoint? 4 rest
  | 'U' :: rest => codePoint? 8 rest
  | _ => none

/-- The rest of a string in double quotes. Each step takes at least one character. -/
def basicString? : (fuel : Nat) → List Char → Option (List Char × List Char)
  | 0, _ => none
  | _, [] => none
  | _, '"' :: rest => some ([], rest)
  | fuel + 1, '\\' :: rest => do
    let (c, rest) ← escape? rest
    let (text, rest) ← basicString? fuel rest
    return (c :: text, rest)
  | fuel + 1, c :: rest =>
    if isPlain c then (basicString? fuel rest).map fun (text, rest) => (c :: text, rest) else none

/-- The rest of a string in single quotes. -/
def literalString? : List Char → Option (List Char × List Char)
  | [] => none
  | '\'' :: rest => some ([], rest)
  | c :: rest =>
    if isPlain c then (literalString? rest).map fun (text, rest) => (c :: text, rest) else none

/-- The quotes at the front when at least three stand there: all but three of them, at most two,
belong to the text. -/
def closing? (quote : Char) (cs : List Char) : Option (List Char × List Char) :=
  let count := min 5 (cs.takeWhile (· = quote)).length
  if 3 ≤ count then some (List.replicate (count - 3) quote, cs.drop count) else none

/-- What follows blanks and line ends. -/
def skipBlankLines : List Char → List Char
  | ' ' :: rest => skipBlankLines rest
  | '\t' :: rest => skipBlankLines rest
  | '\n' :: rest => skipBlankLines rest
  | '\r' :: '\n' :: rest => skipBlankLines rest
  | cs => cs

/-- The rest of a string of several lines. In one in double quotes a backslash escapes a character or
joins lines. A line end reads as one character. Each step takes at least one character. -/
def multilineString? (quote : Char) : (fuel : Nat) → List Char → Option (List Char × List Char)
  | 0, _ => none
  | fuel + 1, cs =>
    match closing? quote cs with
    | some (text, rest) => some (text, rest)
    | none =>
      match cs with
      | [] => none
      | c :: rest =>
        if c = '\\' ∧ quote = '"' then
          match newline? (skipBlanks rest) with
          | some lines => multilineString? quote fuel (skipBlankLines lines)
          | none => do
            let (c, rest) ← escape? rest
            let (text, rest) ← multilineString? quote fuel rest
            return (c :: text, rest)
        else
          match newline? cs with
          | some rest => (multilineString? quote fuel rest).map fun (text, rest) => ('\n' :: text, rest)
          | none =>
            if isPlain c then
              (multilineString? quote fuel rest).map fun (text, rest) => (c :: text, rest)
            else none

/-- A string of either kind on several lines, whose opening quotes are taken; a line end right after
them does not count. -/
def multiline? (quote : Char) (cs : List Char) : Option (Value × List Char) :=
  (multilineString? quote (cs.length + 1) ((newline? cs).getD cs)).map
    fun (text, rest) => (.string (String.ofList text), rest)

/-- A string of any kind and what follows it. -/
def string? : List Char → Option (Value × List Char)
  | '"' :: '"' :: '"' :: rest => multiline? '"' rest
  | '\'' :: '\'' :: '\'' :: rest => multiline? '\'' rest
  | '"' :: rest =>
    (basicString? (rest.length + 1) rest).map fun (t, rest) => (.string (String.ofList t), rest)
  | '\'' :: rest => (literalString? rest).map fun (t, rest) => (.string (String.ofList t), rest)
  | _ => none

end TypeLint.Toml
