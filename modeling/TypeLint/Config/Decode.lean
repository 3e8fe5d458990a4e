import TypeLint.Config.Basic
import TypeLint.Toml.Parser

/-!
# Configuration from TOML

Settings that are not known are ignored and settings that are left out have their default; a setting
of the wrong kind makes the whole text no configuration. The settings of a group may also be given as
an array, in order.
-/

namespace TypeLint

namespace Toml.Value

/-- The settings of a group by name: the entries of a table, the items of an array in the order of
`names`, or none at all for a date. -/
def group? (names : List String) : Value → Option (String → Option Value)
  | .table _ entries => some (Entries.get? entries)
  | .array items => some fun name => (names.zip items).lookup name
  | .tables elements => some fun name => ((names.zip elements).lookup name).map (.table .header)
  | .dateTime => some fun _ => none
  | _ => none

/-- The text. -/
def string? : Value → Option String
  | .string s => some s
  | _ => none

/-- The truth value. -/
def boolean? : Value → Option Bool
  | .boolean b => some b
  | _ => none

/-- The number, if it is not negative. -/
def count? : Value → Option Nat
  | .integer (.ofNat n) => some n
  | _ => none

/-- The texts of an array. -/
def strings? : Value → Option (List String)
  | .array items => items.mapM string?
  | _ => none

/-- The value holds nothing: an array or table without items. -/
def isEmpty : Value → Bool
  | .array items => items.isEmpty
  | .table _ entries => entries.isEmpty
  | .tables elements => elements.isEmpty
  | _ => false

/-- One of several names, as a text or as the only key of a table, with an empty value. -/
def name? : Value → Option String
  | .string s => some s
  | .table _ [(key, value)] => if value.isEmpty then some key else none
  | _ => none

end Toml.Value

/-- A setting, or its default when it is left out. -/
def setting (get : String → Option Toml.Value) (name : String) (default : α)
    (read : Toml.Value → Option α) : Option α :=
  match get name with
  | some v => read v
  | none => some default

/-- Reads a severity by its exact name. -/
def Severity.ofToml? (v : Toml.Value) : Option Severity := do
  match ← v.name? with
  | "suggestion" => return .suggestion
  | "warning" => return .warning
  | _ => none

/-- Reads a policy by its name. -/
def FixPolicy.ofToml? (v : Toml.Value) : Option FixPolicy := do
  (FixPolicy.parse (← v.name?)).toOption

/-- Reads how files are found and analyzed. -/
def AnalyzerConfig.ofToml? (v : Toml.Value) : Option AnalyzerConfig := do
  let get ← v.group? ["exclude", "respect_gitignore", "jobs", "timeout_ms", "type_info",
    "min_severity", "fix_policy"]
  let default : AnalyzerConfig := {}
  return {
    exclude := ← setting get "exclude" default.exclude Toml.Value.strings?
    respectGitignore := ← setting get "respect_gitignore" default.respectGitignore Toml.Value.boolean?
    jobs := ← setting get "jobs" default.jobs Toml.Value.count?
    timeoutMs := ← setting get "timeout_ms" default.timeoutMs fun v => v.count?.map some
    typeInfo := ← setting get "type_info" default.typeInfo Toml.Value.boolean?
    minSeverity := ← setting get "min_severity" default.minSeverity Severity.ofToml?
    fixPolicy := ← setting get "fix_policy" default.fixPolicy FixPolicy.ofToml? }

/-- Reads which rules run. -/
def RulesConfig.ofToml? (v : Toml.Value) : Option RulesConfig := do
  let get ← v.group? ["allow", "deny"]
  return { allow := ← setting get "allow" [] Toml.Value.strings?
           deny := ← setting get "deny" [] Toml.Value.strings? }

namespace Config

/-- Reads a configuration from the entries of a document. -/
def ofEntries? (entries : Toml.Entries) : Option Config := do
  let get := Toml.Entries.get? entries
  return { preset := ← setting get "preset" none fun v => v.string?.map some
           analyzer := ← setting get "analyzer" {} AnalyzerConfig.ofToml?
           rules := ← setting get "rules" {} RulesConfig.ofToml? }

/-- Reads a configuration. -/
def parse (text : String) : Except ConfigError Config :=
  match (Toml.parse? text).bind ofEntries? with
  | some config => .ok config
  | none => .error .parse

/-- Reads a stored configuration. -/
def ofFile (store : FileStore) (path : String) : Except ConfigError Config :=
  match store.read path with
  | .ok text => parse text
  | .error cause => .error (.io path cause)

end Config

end TypeLint
