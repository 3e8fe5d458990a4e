import TypeLint.Config.Basic
import TypeLint.Text.Quoted

/-!
# Configuration as TOML

A configuration is written with every setting it has. Lists of more than one item have one item a
line.
-/

namespace TypeLint

namespace Toml

/-- How one character is written in a string. -/
def escapeChar (c : Char) : String :=
  if c = '"' then "\\\""
  else if c = '\\' then "\\\\"
  else if c = '\n' then "\\n"
  else if c = '\r' then "\\r"
  else if c = '\t' then "\\t"
  else if c < ' ' || c.toNat = 0x7f then "\\u" ++ Text.hexPadded 4 c.toNat
  else c.toString

/-- A text in double quotes. -/
def quoted (s : String) : String := "\"" ++ String.join (s.toList.map escapeChar) ++ "\""

/-- A list of texts. -/
def stringArray : List String → String
  | [] => "[]"
  | [s] => "[" ++ quoted s ++ "]"
  | items => "[\n" ++ String.join (items.map fun s => "    " ++ quoted s ++ ",\n") ++ "]"

end Toml

namespace Config

/-- One setting on a line of its own. -/
def line (name value : String) : String := name ++ " = " ++ value ++ "\n"

/-- The lines under the header of the analyzer's settings. -/
def analyzerLines (a : AnalyzerConfig) : String :=
  line "exclude" (Toml.stringArray a.exclude)
    ++ line "respect_gitignore" (toString a.respectGitignore)
    ++ line "jobs" (toString a.jobs)
    ++ (match a.timeoutMs with
        | some ms => line "timeout_ms" (toString ms)
        | none => "")
    ++ line "type_info" (toString a.typeInfo)
    ++ line "min_severity" (Toml.quoted a.minSeverity.name)
    ++ line "fix_policy" (Toml.quoted a.fixPolicy.name)

/-- The configuration as a document. -/
def toToml (config : Config) : String :=
  (match config.preset with
    | some preset => line "preset" (Toml.quoted preset) ++ "\n"
    | none => "")
    ++ "[analyzer]\n" ++ analyzerLines config.analyzer
    ++ "\n[rules]\n" ++ line "allow" (Toml.stringArray config.rules.allow)
    ++ line "deny" (Toml.stringArray config.rules.deny)

end Config

end TypeLint
