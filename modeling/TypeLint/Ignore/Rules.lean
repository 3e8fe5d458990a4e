import TypeLint.Ignore.Pattern

/-!
# Ignore files

Each line of an ignore file is a pattern; the last one that matches a path decides. A pattern after
`!` keeps what an earlier one ignored, one that ends in `/` is for directories only, and one without
any other `/` matches in every directory. Lines that are no pattern say nothing.
-/

namespace TypeLint.Ignore

/-- What a line says. -/
structure Rule where
  pieces : List Piece
  keeps : Bool
  directoriesOnly : Bool

/-- What an ignore file says about a path. -/
inductive Verdict where
  | silent
  | ignored
  | kept
  deriving DecidableEq, Repr

/-- The verdict, or another where it is silent. -/
def Verdict.or (a b : Verdict) : Verdict := if a = .silent then b else a

/-- The text without the last character, if that is `c`. -/
def dropLast? (c : Char) (cs : List Char) : Option (List Char) :=
  if cs.getLast? = some c then some cs.dropLast else none

/-- The pattern that is matched against whole paths: one without `/` may start in any directory, and
one that ends in `/**` is for what is in the directory only. -/
def wholePattern (anchored : Bool) (line : List Char) : List Char :=
  let anywhere := "**/".toList
  let inner :=
    if anchored || line.contains '/' || anywhere.isPrefixOf line || line = ['*', '*'] then line
    else anywhere ++ line
  if "/**".toList.isSuffixOf inner then inner ++ ['/', '*'] else inner

/-- What a line says. Blanks at its end do not count unless the last one is escaped. -/
def Rule.ofLine? (line : List Char) : Option Rule := do
  let line := if ['\\', ' '].isSuffixOf line then line else Text.dropBack Text.isBlank line
  if line.isEmpty ∨ line.head? = some '#' then none
  else
    let escaped := ['\\', '!'].isPrefixOf line || ['\\', '#'].isPrefixOf line
    let keeps := line.head? = some '!'
    let line := if escaped || keeps then line.tail else line
    let anchored := !escaped && line.head? = some '/'
    let line := if anchored then line.tail else line
    let directory := dropLast? '/' line
    let line := match directory with
      | some line => (dropLast? '\\' line).getD line
      | none => line
    let pieces ← (parse (wholePattern anchored line)).toOption
    return { pieces, keeps, directoriesOnly := directory.isSome }

/-- The lines of a text. A carriage return right before a line end belongs to it; what follows the last
line end is a line if there is anything. -/
def linesOf (cs : List Char) : List (List Char) :=
  let parts := Text.splitAt '\n' cs
  parts.dropLast.map (fun line => (dropLast? '\r' line).getD line)
    ++ parts.getLast?.toList.filter (!·.isEmpty)

/-- What a file says, line by line. Byte order marks at its front do not count. -/
def rulesOf (text : String) : List Rule :=
  (linesOf (text.toList.dropWhile (· = '\ufeff'))).filterMap Rule.ofLine?

/-- What the rules say about a path below the directory of their file. -/
def verdict (rules : List Rule) (path : Bytes) (isDirectory : Bool) : Verdict :=
  match rules.reverse.find? fun r =>
    (!r.directoriesOnly || isDirectory) && accepts r.pieces path with
  | some r => if r.keeps then .kept else .ignored
  | none => .silent

end TypeLint.Ignore
