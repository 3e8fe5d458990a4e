import TypeLint.Catalog.Syntax
import TypeLint.Text.Alphanumeric

/-!
# Compiler comments

The rule against `@ts-ignore`, which stays silent after the error it hides is gone.
-/

namespace TypeLint.Catalog

open TypeLint.Text

/-- The directive to replace. -/
def ignoreDirective : String := "@ts-ignore"

/-- What takes its place. -/
def expectDirective : String := "@ts-expect-error"

/-- The character continues a word, so a directive before it is a part of a longer one. -/
def continuesWord (c : Char) : Bool := isAlphanumeric c || c = '-' || c = '_'

/-- The byte offset of the directive in the text of a comment that consists of it: it comes first,
after the comment's marks and white space, and is a whole word. -/
def directiveOffset? (comment : String) : Option Nat := do
  let chars := comment.toList
  let body ← (after? "//".toList chars).or (after? "/*".toList chars)
  let trimmed := trimFront (dropFront (fun c => c = '*' || c = '/') body)
  let rest ← after? ignoreDirective.toList trimmed
  if rest.head?.any continuesWord then none
  else some (comment.utf8ByteSize - (String.ofList trimmed).utf8ByteSize)

/-- Replaces the directive and nothing else of the comment. -/
def fixIgnore (ctx : FileContext) (m : Match ctx.tree) : FixOutcome :=
  match directiveOffset? m.node.text with
  | none => .manual "directive not found"
  | some offset =>
    let start := m.node.span.start + offset
    .propose "Replace with `@ts-expect-error`"
      [.replace ctx.source (.between start (start + ignoreDirective.utf8ByteSize))
        expectDirective]

/-- `@ts-expect-error` fails once there is nothing left to hide. -/
def preferTsExpectError : Rule where
  name := "prefer-ts-expect-error"
  code := "TY020"
  severity := .warning
  description := "Prefers `@ts-expect-error` to `@ts-ignore`"
  message := "`@ts-ignore` stays silent after the error is fixed"
  help := some "use `@ts-expect-error`"
  matcher := .custom fun _ n =>
    .ok (if n.kind == "comment" && (directiveOffset? n.text).isSome then some .empty else none)
  fixer := some (.custom fun ctx m => .ok (fixIgnore ctx m))

end TypeLint.Catalog
