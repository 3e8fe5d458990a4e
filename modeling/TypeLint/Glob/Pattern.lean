import TypeLint.Text.Chars

/-!
# Wildcard patterns

A pattern is a text in which `?` stands for one character, `*` for any text, `[…]` for one character
of a set, and `**`, which has to be a whole part of the path, for any number of directories. No
wildcard but `**` cares for `/`.
-/

namespace TypeLint.Glob

/-- Why a text is no pattern. -/
inductive Flaw where
  | wildcards
  | recursiveWildcards
  | invalidRange
  deriving DecidableEq, Repr

/-- A flaw and the character where it was found, counted from zero. -/
structure PatternError where
  position : Nat
  flaw : Flaw
  deriving DecidableEq, Repr

/-- The flaw in words. -/
def Flaw.message : Flaw → String
  | .wildcards => "wildcards are either regular `*` or recursive `**`"
  | .recursiveWildcards => "recursive wildcards must form a single path component"
  | .invalidRange => "invalid range pattern"

/-- The error in words. -/
def PatternError.message (e : PatternError) : String :=
  "Pattern syntax error near position " ++ toString e.position ++ ": " ++ e.flaw.message

/-- One step of a pattern. -/
inductive Token where
  | char (c : Char)
  | anyChar
  /-- any text -/
  | anyText
  /-- nothing, directories with the `/` after each, or all that is left -/
  | anyDirectories
  /-- one character that lies in one of the ranges, or in none of them -/
  | oneOf (negated : Bool) (ranges : List (Char × Char))
  deriving DecidableEq, Repr

/-- The character that a token stands for, if there is only one. -/
def Token.char? : Token → Option Char
  | .char c => some c
  | _ => none

/-- A pattern. -/
structure Pattern where
  tokens : List Token
  deriving DecidableEq, Repr

/-- The ranges between brackets. -/
def ranges : List Char → List (Char × Char)
  | a :: '-' :: b :: rest => (a, b) :: ranges rest
  | a :: rest => (a, a) :: ranges rest
  | [] => []

/-- A set in brackets, whose opening bracket is taken: its token and the number of characters it
takes. The first character of a set may be a closing bracket. -/
def bracketed? : List Char → Option (Token × Nat)
  | '!' :: first :: rest =>
    (Text.cut? ']' rest).map fun (more, _) => (.oneOf true (ranges (first :: more)), more.length + 3)
  | ['!'] => none
  | first :: rest =>
    (Text.cut? ']' rest).map fun (more, _) => (.oneOf false (ranges (first :: more)), more.length + 2)
  | [] => none

/-- The tokens of a text from `position` on; `previous` is the character before it. -/
def tokens (position : Nat) (previous : Option Char) (cs : List Char) :
    Except PatternError (List Token) :=
  match cs with
  | [] => .ok []
  | '?' :: rest => do return .anyChar :: (← tokens (position + 1) (some '?') rest)
  | '*' :: '*' :: '*' :: _ => .error ⟨position + 2, .wildcards⟩
  | '*' :: '*' :: rest =>
    if previous = none ∨ previous = some '/' then
      match rest with
      | [] => .ok [.anyDirectories]
      | '/' :: rest => do return .anyDirectories :: (← tokens (position + 3) (some '/') rest)
      | _ :: _ => .error ⟨position + 2, .recursiveWildcards⟩
    else .error ⟨position - 1, .recursiveWildcards⟩
  | '*' :: rest => do return .anyText :: (← tokens (position + 1) (some '*') rest)
  | '[' :: rest =>
    match bracketed? rest with
    | some (token, count) => do
      return token :: (← tokens (position + count + 1) (some ']') (rest.drop count))
    | none => .error ⟨position, .invalidRange⟩
  | c :: rest => do return .char c :: (← tokens (position + 1) (some c) rest)
termination_by cs.length
decreasing_by all_goals simp_wf <;> omega

/-- What is left of a text after each `/` in it. -/
def afterSlashes : List Char → List (List Char)
  | [] => []
  | c :: rest => if c = '/' then rest :: afterSlashes rest else afterSlashes rest

/-- What may be left of a text when any part of its front is taken. -/
def suffixes : List Char → List (List Char)
  | [] => [[]]
  | c :: rest => (c :: rest) :: suffixes rest

/-- The tokens match the whole text. -/
def matchTokens : List Token → List Char → Bool
  | [], text => text.isEmpty
  | .anyText :: rest, text => (suffixes text).any (matchTokens rest)
  | .anyDirectories :: rest, text =>
    matchTokens rest text || (afterSlashes text).any (matchTokens rest) || matchTokens rest []
  | token :: rest, text =>
    match text with
    | [] => false
    | c :: text =>
      (match token with
        | .char d => c = d
        | .oneOf negated ranges => negated != ranges.any fun (a, b) => a ≤ c && c ≤ b
        | _ => true) && matchTokens rest text

namespace Pattern

/-- Reads a pattern. -/
def parse (text : String) : Except PatternError Pattern := do
  return ⟨← Glob.tokens 0 none text.toList⟩

/-- The pattern matches the whole text. -/
def accepts (p : Pattern) (text : String) : Bool := matchTokens p.tokens text.toList

/-- The pattern goes into directories. -/
def isRecursive (p : Pattern) : Bool := p.tokens.contains .anyDirectories

/-- The text that the pattern is, if it has no wildcards. -/
def literal? (p : Pattern) : Option String := (p.tokens.mapM Token.char?).map String.ofList

end Pattern

end TypeLint.Glob
