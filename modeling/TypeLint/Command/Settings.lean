import TypeLint.Command.Arguments
import TypeLint.Command.Error
import TypeLint.Config.Decode

/-!
# Where a command's settings come from

The configuration is the one named by the arguments or the environment, else the project's, else the
user's, else the default; what the arguments of `check` say goes on top of it.
-/

namespace TypeLint.Command

/-- The variables of the environment. -/
abbrev Environment := List (String × String)

/-- The value of a variable. -/
def Environment.get? (environment : Environment) (name : String) : Option String :=
  environment.lookup name

/-- Where the configuration was found. -/
inductive ConfigSource where
  | named (path : String)
  | project (path : String)
  | user (path : String)
  | default
  deriving DecidableEq, Repr

namespace ConfigSource

/-- The names of a project's configuration, the first one found counts. -/
def projectNames : List String := ["typesmith.toml", ".typesmith.toml"]

/-- The directory of the user's configuration. -/
def userDirectory? (environment : Environment) : Option String :=
  (environment.get? "TYPESMITH_CONFIG_DIR").or
    ((environment.get? "HOME").map fun home => Path.join home ".typesmith")

/-- Looks for the configuration of the project in a directory. -/
def find (store : FileStore) (environment : Environment) (directory : String)
    (named : Option String) : ConfigSource :=
  match named with
  | some path => .named path
  | none =>
    match (projectNames.map (Path.join directory)).find? store.isFile with
    | some path => .project path
    | none =>
      match (userDirectory? environment).map fun d => Path.join d "config.toml" with
      | some path => if store.isFile path then .user path else .default
      | none => .default

/-- The file of the configuration. -/
def path? : ConfigSource → Option String
  | .named path => some path
  | .project path => some path
  | .user path => some path
  | .default => none

/-- Reads the configuration. -/
def load (source : ConfigSource) (store : FileStore) : Except CommandError Config :=
  match source.path? with
  | none => .ok {}
  | some path =>
    match Config.ofFile store path with
    | .ok config => .ok config
    | .error cause => .error (.config path cause)

end ConfigSource

/-- The configuration with what the arguments say on top: lists of exclusions and denied rules grow,
everything else is replaced. -/
def CheckArguments.applyTo (arguments : CheckArguments) (config : Config) : Config where
  preset := config.preset
  analyzer := {
    exclude := config.analyzer.exclude ++ arguments.exclude
    respectGitignore := config.analyzer.respectGitignore
    jobs := arguments.jobs.getD config.analyzer.jobs
    timeoutMs := arguments.timeoutMs.or config.analyzer.timeoutMs
    typeInfo := !arguments.noTypeInfo && config.analyzer.typeInfo
    minSeverity := arguments.severity.getD config.analyzer.minSeverity
    fixPolicy := config.analyzer.fixPolicy }
  rules := {
    allow := if arguments.rules.isEmpty then config.rules.allow else arguments.rules
    deny := config.rules.deny ++ arguments.deny }

/-- The directory of the project: the first of the paths that is one, or where the command runs. -/
def projectDirectory (store : FileStore) (paths : List String) : String :=
  (paths.find? store.isDirectory).getD "."

end TypeLint.Command
