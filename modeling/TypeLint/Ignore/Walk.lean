import TypeLint.FileStore.Basic
import TypeLint.Ignore.Rules

/-!
# The files below a directory

A walk goes through a directory and everything below it but what ignore files exclude. Every
directory from the root of the store down to the one at hand may have ignore files, and the nearest
that is not silent decides: those named `.ignore` first, then, inside a repository and up to its root,
those named `.gitignore`, then the repository's own list, then the user's.

The root of a repository has a directory `.git`, or a file `.git` when it is one of several checkouts;
the repository's own list is then in the directory that the checkouts share.
-/

namespace TypeLint.Ignore

/-- The ignore files of one directory, and whether it is the root of a repository. -/
structure Layer where
  base : Place
  plain : List Rule
  git : List Rule
  repository : List Rule
  isRepository : Bool

/-- How to walk: whether `.gitignore` counts, and the user's own list. -/
structure Settings where
  gitignore : Bool := true
  user : List Rule := []

/-- What the file at a place says. -/
def rulesAt (store : FileStore) (place : Place) : List Rule :=
  match store.item? place with
  | some (.file content) => rulesOf ((String.fromUTF8? content).getD "")
  | _ => []

/-- The directory that the checkouts of a repository share, by the text of the file `.git` of one of
them: the file names the checkout's own directory, and the file `commondir` there names the shared one,
seen from there if the name starts with a point. -/
def sharedDirectory? (store : FileStore) (link : String) : Option String := do
  let line ← (linesOf link.toList).head?
  let own ← (Text.after? "gitdir: ".toList line).map String.ofList
  let text ← (store.read (Path.join own "commondir")).toOption
  let shared ← (linesOf text.toList).head?.map String.ofList
  return if Text.startsWith shared "." then Path.join own shared else shared

/-- The list of the repository whose root is the directory. -/
def repositoryRules (store : FileStore) (directory : Place) : List Rule :=
  match store.item? (directory ++ [".git"]) with
  | some (.file content) =>
    let link := (String.fromUTF8? content).getD ""
    match (sharedDirectory? store link).map fun d => store.read (Path.join d "info/exclude") with
    | some (.ok text) => rulesOf text
    | _ => []
  | _ => rulesAt store (directory ++ [".git", "info", "exclude"])

/-- The layer of a directory. A directory above the one where the walk starts counts as a repository
only if `.gitignore` counts. -/
def layerAt (store : FileStore) (settings : Settings) (start directory : Place) : Layer where
  base := directory
  plain := rulesAt store (directory ++ [".ignore"])
  git := if settings.gitignore then rulesAt store (directory ++ [".gitignore"]) else []
  repository := repositoryRules store directory
  isRepository :=
    (settings.gitignore || start.length ≤ directory.length)
      && ((store.item? (directory ++ [".git"])).isSome || (store.item? (directory ++ [".jj"])).isSome)

/-- The layers that say something about what is in a directory, the nearest first. -/
def layersOf (store : FileStore) (settings : Settings) (start directory : Place) : List Layer :=
  ((List.range (directory.length + 1)).map fun n =>
    layerAt store settings start (directory.take n)).reverse

/-- What the layers say about a path, by kind of file. -/
structure Verdicts where
  plain : Verdict := .silent
  git : Verdict := .silent
  repository : Verdict := .silent

/-- The bytes of a path below a directory. -/
def bytesBelow (base place : Place) : Bytes :=
  ("/".intercalate (place.drop base.length)).toUTF8.toList

/-- Asks the layers, the nearest first. Lists of a repository count up to the repository's root. -/
def askLayers (place : Place) (isDirectory : Bool) : (inside : Bool) → Verdicts → List Layer → Verdicts
  | _, verdicts, [] => verdicts
  | inside, verdicts, layer :: rest =>
    let ask (rules : List Rule) := verdict rules (bytesBelow layer.base place) isDirectory
    let verdicts := { verdicts with plain := verdicts.plain.or (ask layer.plain) }
    let verdicts :=
      if inside then
        { verdicts with
          git := verdicts.git.or (ask layer.git)
          repository := verdicts.repository.or (ask layer.repository) }
      else verdicts
    -- above the root of the repository only the plain lists are left
    askLayers place isDirectory (inside && !layer.isRepository) verdicts rest

/-- The ignore files exclude what stands at the place. -/
def isIgnored (settings : Settings) (layers : List Layer) (place : Place) (isDirectory : Bool) : Bool :=
  let inside := layers.any (·.isRepository)
  let verdicts := askLayers place isDirectory inside {} layers
  let user := if inside then verdict settings.user (bytesBelow [] place) isDirectory else .silent
  (verdicts.plain.or (verdicts.git.or (verdicts.repository.or user))) = .ignored

/-- The files below a directory, which is at `place` and is called `path`. Each step goes one directory
down. -/
def filesBelow (store : FileStore) (settings : Settings) (start : Place) :
    (fuel : Nat) → (path : String) → (place : Place) → List String
  | 0, _, _ => []
  | fuel + 1, path, place =>
    let layers := layersOf store settings start place
    (store.children place).flatMap fun name =>
      let inner := place ++ [name]
      match store.item? inner with
      | some .directory =>
        if isIgnored settings layers inner true then []
        else filesBelow store settings start fuel (Path.join path name) inner
      | some (.file _) =>
        if isIgnored settings layers inner false then [] else [Path.join path name]
      | none => []

/-- The files of a walk that starts at a directory. -/
def walk (store : FileStore) (settings : Settings) (path : String) : List String :=
  match store.locate path with
  | .ok place => filesBelow store settings place (store.depth + 1) path place
  | .error _ => []

end TypeLint.Ignore
