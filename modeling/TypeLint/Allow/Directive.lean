import TypeLint.Text.Chars

/-!
# Allow directives

A comment may excuse the findings near it:

    // typesmith: allow(no-explicit-any, TY003) reason="third-party callback"

`Directive.parse?` reads the text of one comment. White space is free around every part, block
comments may start and end with any run of stars and slashes, and what follows the closing
parenthesis is ignored unless it is a reason in quotes.
-/

namespace TypeLint.Allow

open TypeLint.Text

/-- The identifiers a directive lists, each once and as written, and its reason. -/
structure Directive where
  rules : List String
  reason : Option String
  deriving DecidableEq, Repr

/-- The directive covers a rule: it lists `all`, or an identifier that `isRule` accepts. -/
def Directive.covers (d : Directive) (isRule : String → Bool) : Bool :=
  d.rules.any fun r => r == "all" || isRule r

/-- What stands inside a line or block comment, without its marks and outer white space. -/
def commentBody? (comment : List Char) : Option (List Char) := do
  let body ← (after? "//".toList comment).or (after? "/*".toList comment)
  let inner := trim (dropFront (fun c => c = '/' || c = '*') body)
  return trim (dropTails "*/".toList inner)

/-- The reason given after the closing parenthesis, if there is one in quotes. -/
def reason? (rest : List Char) : Option String := do
  let given ← after? "reason=".toList (trim rest)
  let quoted ← after? ['"'] (trim given)
  let (reason, _) ← cut? '"' quoted
  return String.ofList reason

/-- The identifiers between the parentheses, without empty ones and repetitions. -/
def identifiers (listed : List Char) : List String :=
  (((splitAt ',' listed).map trim).filter (!·.isEmpty)).map String.ofList |>.eraseDups

/-- Reads the directive in the text of one comment; a directive must list something. -/
def Directive.parse? (comment : String) : Option Directive := do
  let body ← commentBody? comment.toList
  let command ← after? "typesmith:".toList body
  let listed ← after? "allow(".toList (trim command)
  let (ids, rest) ← cut? ')' (trim listed)
  let rules := identifiers ids
  if rules.isEmpty then none else some { rules, reason := reason? rest }

end TypeLint.Allow
