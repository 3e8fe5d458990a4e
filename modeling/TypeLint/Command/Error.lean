import TypeLint.Config.Basic
import TypeLint.Glob.Pattern

/-!
# Why a command fails

Each way for a command to fail before it has a result to show, and its words: what was tried, then
why it did not work.
-/

namespace TypeLint.Command

/-- Why a command fails. -/
inductive CommandError where
  | config (path : String) (cause : ConfigError)
  | preset (message : String)
  | ruleSet (cause : RuleSetError)
  | engine (cause : EngineError)
  | exclude (pattern : String) (cause : Glob.PatternError)
  | pattern (input : String) (cause : Glob.PatternError)
  | noSuchPath (input : String)
  | analysis (cause : EngineError)
  | configExists (path : String)
  | configWrite (path : String) (cause : IoError)
  deriving DecidableEq, Repr

/-- The error in words. -/
def CommandError.message : CommandError → String
  | .config path cause => "Failed to load config: " ++ path ++ ": " ++ cause.chain
  | .preset message => message
  | .ruleSet cause => "Failed to build rule set: " ++ cause.message
  | .engine cause => "Failed to build engine: " ++ cause.message
  | .exclude text cause => "Invalid exclude pattern `" ++ text ++ "`: " ++ cause.message
  | .pattern input cause => "Invalid glob `" ++ input ++ "`: " ++ cause.message
  | .noSuchPath input => "No such file or directory: " ++ input
  | .analysis cause => "Analysis failed: " ++ cause.message
  | .configExists path =>
    "Configuration file already exists at " ++ path ++ ". Use --force to overwrite."
  | .configWrite path cause => "Failed to write " ++ path ++ ": " ++ cause.message

end TypeLint.Command
