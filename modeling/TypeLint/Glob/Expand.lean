import TypeLint.FileStore.Basic
import TypeLint.Glob.Pattern

/-!
# The files that a pattern names

A pattern with `/` in it is matched part by part against the names in a store, so that only
directories that can lead to a match are looked into. Paths are found relative to the directory where
the pattern starts and are written without a leading `./`.
-/

namespace TypeLint.Glob

/-- A pattern part by part. `directoriesOnly` says that the pattern ended in `/`. -/
structure PathPattern where
  parts : List Pattern
  directoriesOnly : Bool
  deriving DecidableEq, Repr

/-- Reads a pattern for paths: the whole text has to be a pattern, and then every part of it. -/
def PathPattern.parse (text : String) : Except PatternError PathPattern := do
  let _ ← Pattern.parse text
  let parts := (Text.splitAt '/' text.toList).map String.ofList
  let closed := Text.endsWith text "/"
  let parts := if closed then parts.dropLast else parts
  return ⟨← parts.mapM Pattern.parse, closed⟩

/-- The path is the directory that relative paths start from. -/
def isStart (path : String) : Bool := path != "" && !Path.isAbsolute path && Path.names path == []

/-- The path of something in a directory. -/
def child (directory name : String) : String :=
  if isStart directory then name else Path.join directory name

mutual

/-- What the parts of a pattern match from a directory on. Each step takes a part of the pattern or
goes one directory down. -/
def expand (store : FileStore) : (fuel : Nat) → List Pattern → (directory : String) → List String
  | 0, _, _ => []
  | _, [], _ => []
  | fuel + 1, part :: rest, directory =>
    let found (path : String) : List String :=
      if rest.isEmpty then [path] else expand store fuel rest path
    match part.literal? with
    | some name =>
      let path := child directory name
      -- these two are never listed, yet every directory has them
      if name = "." ∨ name = ".." then
        if store.isDirectory directory then found path else []
      else if store.exists? path then found path else []
    | none =>
      match store.locate directory with
      | .error _ => []
      | .ok place =>
        if store.isDirectory directory then
          let names := (store.children place).flatMap fun name =>
            visit store fuel (part :: rest) (child directory name)
          let dots :=
            if part.tokens.head? = some (.char '.') then
              [".", ".."].filter part.accepts |>.flatMap fun name => found (Path.join directory name)
            else []
          names ++ dots
        else []

/-- What the parts of a pattern match at a path and below it. -/
def visit (store : FileStore) : (fuel : Nat) → List Pattern → (path : String) → List String
  | 0, _, _ => []
  | _, [], _ => []
  | fuel + 1, part :: rest, path =>
    let name := (Path.fileName? path).getD ""
    if part.isRecursive then
      -- several of them in a row say no more than one
      let rest := rest.dropWhile (·.isRecursive)
      let below := if store.isDirectory path then expand store fuel (part :: rest) path else []
      match rest with
      | [] => if store.isDirectory path then path :: below else []
      | next :: rest =>
        let here :=
          if next.accepts name then
            if rest.isEmpty then [path] else expand store fuel rest path
          else []
        here ++ below
    else if part.accepts name then
      if rest.isEmpty then [path] else expand store fuel rest path
    else []

end

/-- The paths in a store that a pattern matches. -/
def PathPattern.paths (p : PathPattern) (store : FileStore) : List String :=
  let fuel := 2 * (p.parts.length + 1) * (store.depth + 2)
  (expand store fuel p.parts ".").filter fun path => !p.directoriesOnly || store.isDirectory path

end TypeLint.Glob
