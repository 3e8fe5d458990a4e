import TypeLint.Path
import TypeLint.Report.Basic
import TypeLint.Rule.Basic
import TypeLint.Tree.Builder

/-!
# Source parsers

A parser is known by its name and the file extensions it takes; how it makes a tree of a text is its
own affair. For a file that several parsers take, the one with the longest fitting extension is
used, and of those the one registered last.
-/

namespace TypeLint

/-- Turns the text of a file into a tree, or says why it cannot; it may also break down. -/
structure SourceParser where
  id : String
  extensions : List String
  parse : (path source : String) → Except Fault (Except ParseError SyntaxTree)

/-- A tree of these entries, as a parser answers it. -/
def ParseError.ofEntries (source : String) (entries : Array Tree.Entry) :
    Except ParseError SyntaxTree :=
  match SyntaxTree.ofEntries source entries with
  | .ok t => .ok t
  | .error e => .error ⟨"malformed syntax tree: " ++ e.message, 0, 0⟩

namespace SourceParser

/-- The parser takes the file: its name ends in one of the extensions and is more than that. -/
def handles (p : SourceParser) (path : String) : Bool :=
  (Path.fileName? path).any fun name =>
    p.extensions.any fun ext =>
      ext.utf8ByteSize + 1 < name.utf8ByteSize && Text.endsWith name ("." ++ ext)

/-- The length of the longest extension that the path ends in. -/
def fit (p : SourceParser) (path : String) : Option Nat :=
  ((p.extensions.filter fun ext => Text.endsWith path ("." ++ ext)).map (·.utf8ByteSize)).max?

/-- `a` fits no better than `b`: no extension is worse than any, and a longer one is better. -/
def fitLe : Option Nat → Option Nat → Bool
  | none, _ => true
  | some _, none => false
  | some a, some b => a ≤ b

/-- The last of the best-fitting parsers among those that follow `best`. -/
def bestFrom (path : String) (best : SourceParser) : List SourceParser → SourceParser
  | [] => best
  | p :: rest => bestFrom path (if fitLe (best.fit path) (p.fit path) then p else best) rest

/-- The parser for a file. -/
def for? (parsers : List SourceParser) (path : String) : Option SourceParser :=
  match parsers.filter (·.handles path) with
  | [] => none
  | p :: rest => some (bestFrom path p rest)

/-- How a grammar turns the text of a file into a tree. -/
abbrev Grammar := (path source : String) → Except Fault (Except ParseError SyntaxTree)

/-- The parsers of a check: one for plain sources and declaration files, one for sources with markup
in them. -/
def standard (plain markup : Grammar) : List SourceParser :=
  [⟨"typescript", ["ts", "mts", "cts", "d.ts"], plain⟩, ⟨"tsx", ["tsx"], markup⟩]

end SourceParser

end TypeLint
