import TypeLint.Allow.Index
import TypeLint.Path
import TypeLint.Scope.Basic
import TypeLint.TypeInfo.Basic

/-!
# The file under analysis

Everything a rule may ask about a file: its path and tree, the scope index, where lines start, which
lines are excused, and the type oracle if there is one.
-/

namespace TypeLint

/-- A parsed file with what is derived from it once, before any rule runs. -/
structure FileContext where
  path : String
  tree : SyntaxTree
  scopes : ScopeIndex tree
  lines : LineIndex
  allows : Allow.Index
  oracle : Option TypeOracle

namespace FileContext

/-- The context of a parsed file. -/
def make (path : String) (tree : SyntaxTree) (oracle : Option TypeOracle) : FileContext :=
  let lines := LineIndex.ofText tree.source
  { path, tree, scopes := .ofTree tree, lines, allows := .ofTree tree lines, oracle }

/-- The source text. -/
def source (ctx : FileContext) : String := ctx.tree.source

/-- The file only declares what exists elsewhere, as its name says. -/
def isDeclarationFile (ctx : FileContext) : Bool :=
  (Path.fileName? ctx.path).any fun name =>
    [".d.ts", ".d.mts", ".d.cts"].any (Text.endsWith name)

/-- Line and column of a byte offset. -/
def position (ctx : FileContext) (offset : Nat) : Position :=
  ctx.lines.position ctx.source offset

/-- There is someone to ask about types. -/
def hasTypeInfo (ctx : FileContext) : Bool := ctx.oracle.isSome

/-- The type of a node, if it can be told. -/
def typeOf? (ctx : FileContext) (n : Node ctx.tree) : Option TypeInfo :=
  match ctx.oracle with
  | some oracle => oracle n
  | none => none

end FileContext

end TypeLint
