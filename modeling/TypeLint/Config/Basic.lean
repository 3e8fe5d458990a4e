import TypeLint.Engine.Basic
import TypeLint.FileStore.Basic

/-!
# Configuration

What a project sets for its analyses: the preset to start from, how files are found and analyzed, and
which rules run. Everything has a default.
-/

namespace TypeLint

/-- How files are found and analyzed. A time limit of zero is none. -/
structure AnalyzerConfig where
  exclude : List String := ["**/node_modules/**", "**/dist/**"]
  respectGitignore : Bool := true
  jobs : Nat := 0
  timeoutMs : Option Nat := some 5000
  typeInfo : Bool := true
  minSeverity : Severity := .suggestion
  fixPolicy : FixPolicy := .firstRegistered
  deriving DecidableEq, Repr

/-- Which rules run: those allowed, or all if none is named, without those denied. -/
structure RulesConfig where
  allow : List String := []
  deny : List String := []
  deriving DecidableEq, Repr

/-- The configuration of a project. -/
structure Config where
  preset : Option String := none
  analyzer : AnalyzerConfig := {}
  rules : RulesConfig := {}
  deriving DecidableEq, Repr

/-- Why a configuration cannot be had. -/
inductive ConfigError where
  | io (path : String) (cause : IoError)
  | parse
  deriving DecidableEq, Repr

/-- The error in words. -/
def ConfigError.message : ConfigError → String
  | .io path cause => "Failed to read config file " ++ path ++ ": " ++ cause.message
  | .parse => "Failed to parse config: not a table of known settings in TOML"

/-- The error in words, followed by what caused it. -/
def ConfigError.chain : ConfigError → String
  | .io path cause => (ConfigError.io path cause).message ++ ": " ++ cause.message
  | .parse => ConfigError.parse.message

namespace Config

/-- The rules to run. -/
def filter (config : Config) : RuleFilter := { allow := config.rules.allow, deny := config.rules.deny }

/-- How to run an analysis. -/
def options (config : Config) : AnalyzeOptions where
  filter := config.filter
  minSeverity := config.analyzer.minSeverity
  typeInfo := config.analyzer.typeInfo
  jobs := config.analyzer.jobs
  timeoutMs := config.analyzer.timeoutMs.filter (0 < ·)
  fixPolicy := config.analyzer.fixPolicy

end Config

end TypeLint
