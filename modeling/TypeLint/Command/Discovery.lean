import TypeLint.Command.Settings
import TypeLint.Engine.Parser
import TypeLint.Glob.Expand
import TypeLint.Ignore.UserList
import TypeLint.Ignore.Walk

/-!
# The files that a command is about

A path is a file, a directory to walk through, or a pattern. A file that is named is taken as it is;
what is found in a directory or by a pattern is taken if a parser handles it and no exclusion matches
its path.
-/

namespace TypeLint.Command

/-- The text has wildcards. -/
def hasWildcards (input : String) : Bool := input.toList.any fun c => c ∈ ['*', '?', '[']

/-- How directories are walked. A variable for the directory of configuration that is empty says
nothing. -/
def walkSettings (store : FileStore) (environment : Environment) (config : Config) :
    Ignore.Settings where
  gitignore := config.analyzer.respectGitignore
  user :=
    Ignore.userRules store (environment.get? "HOME")
      ((environment.get? "XDG_CONFIG_HOME").filter (· != ""))

/-- Reads the patterns of what to leave out. -/
def readExclusions : List String → Except CommandError (List Glob.Pattern)
  | [] => .ok []
  | text :: rest =>
    match Glob.Pattern.parse text with
    | .ok pattern => do return pattern :: (← readExclusions rest)
    | .error cause => .error (.exclude text cause)

/-- The files that one input stands for. -/
def filesOf (store : FileStore) (settings : Ignore.Settings) (handles wanted : String → Bool)
    (input : String) : Except CommandError (List String) :=
  if store.isFile input then .ok (if handles input then [input] else [])
  else if store.isDirectory input then .ok ((Ignore.walk store settings input).filter wanted)
  else if hasWildcards input then
    match Glob.PathPattern.parse input with
    | .ok pattern => .ok ((pattern.paths store).filter wanted)
    | .error cause => .error (.pattern input cause)
  else .error (.noSuchPath input)

/-- The files that the inputs stand for, in order and each once. -/
def discover (store : FileStore) (environment : Environment) (config : Config)
    (handles : String → Bool) (inputs : List String) : Except CommandError (List String) := do
  let exclusions ← readExclusions config.analyzer.exclude
  let wanted (path : String) : Bool :=
    store.isFile path && handles path && !exclusions.any (·.accepts path)
  let files ← inputs.mapM (filesOf store (walkSettings store environment config) handles wanted)
  return Path.sorted files.flatten

end TypeLint.Command
