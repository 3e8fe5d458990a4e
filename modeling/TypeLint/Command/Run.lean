import TypeLint.Command.Check
import TypeLint.Command.Output

/-!
# Running a command

A command is a function of the arguments, the environment and the files; what it leaves behind is an
exit code, what it wrote, and the files. The code is 0 when no warning remains, 1 when some does, and
2 when a file or a rule failed or the command itself did.
-/

namespace TypeLint.Command

/-- What a command leaves behind. -/
structure Result where
  exitCode : Nat
  output : Output
  store : FileStore

/-- The exit code of a check. -/
def exitCode (report : BatchReport) : Nat :=
  if report.hasFailures then 2 else if report.hasWarnings then 1 else 0

/-- The result of a command that failed. -/
def failed (store : FileStore) (error : CommandError) : Result :=
  { exitCode := 2, output := Output.errorLine ("error: " ++ error.message), store }

/-! ## Listing the rules -/

/-- A text with blanks behind it up to a width. -/
def padded (width : Nat) (text : String) : String :=
  text ++ "".pushn ' ' (width - text.length)

/-- One rule in a line. -/
def ruleLine (rule : Rule) : String :=
  padded 7 rule.code ++ " " ++ padded 36 rule.name ++ " " ++ rule.severity.name ++ " "
    ++ padded 4 (if rule.isFixable then "yes" else "no") ++ " " ++ rule.description

/-- The catalog and the presets. -/
def ruleList : Output :=
  Output.concat <| List.map Output.line <|
    ["Available rules (catalog " ++ Catalog.version ++ "):", "",
      padded 7 "Code" ++ " " ++ padded 36 "Name" ++ " " ++ padded 11 "Severity" ++ " "
        ++ padded 4 "Fix" ++ " Description",
      "".pushn '-' 100]
    ++ Catalog.rules.map ruleLine
    ++ ["", "Presets:"]
    ++ Preset.all.map (fun p =>
      "  " ++ padded 12 p.name ++ " - " ++ toString p.rules.length ++ " rule(s)")
    ++ ["", "Use --rules or --deny to select rules by name or code, e.g.:",
      "  typesmith check --rules no-explicit-any,no-double-assertion",
      "  typesmith check --deny TY014,TY015"]

/-! ## Writing a first configuration -/

/-- The configuration that `init` writes. -/
def starterConfig : String :=
  "# typesmith configuration

# Starting rule set: \"recommended\" (all rules) or \"minimal\" (warnings only)
preset = \"recommended\"

[analyzer]
# Glob patterns to exclude from analysis
exclude = [
    \"**/node_modules/**\",
    \"**/dist/**\",
]

# Respect .gitignore files
respect_gitignore = true

# Worker threads (0 = one per CPU)
jobs = 0

# Per-file time limit in milliseconds (0 disables it)
timeout_ms = 5000

# Run rules that need type information
type_info = true

# Lowest severity reported: \"suggestion\" or \"warning\"
min_severity = \"suggestion\"

# Which fix wins when two overlap: \"first-registered\" or \"last-registered\"
fix_policy = \"first-registered\"

[rules]
# Rules to run by name or code (empty = all rules in the preset)
allow = []

# Rules never to run
deny = []
"

/-- Where `init` writes. -/
def starterPath : String := "./typesmith.toml"

/-- Writes a first configuration; one that is there is only replaced by force. -/
def init (store : FileStore) (force : Bool) : Except CommandError FileStore :=
  if store.exists? starterPath && !force then .error (.configExists starterPath)
  else
    match store.write starterPath starterConfig with
    | .ok store => .ok store
    | .error cause => .error (.configWrite starterPath cause)

/-- What `init` says. -/
def initMessage : Output :=
  Output.concat <| List.map Output.line
    ["Created " ++ starterPath, "", "Next steps:", "  1. Edit typesmith.toml to select rules",
      "  2. Run: typesmith check"]

/-! ## Everything -/

/-- What the program says about itself. -/
def versionLine : String := "typesmith 0.1.0"

/-- The commands and where to find more. -/
def helpText : Output :=
  Output.concat <| List.map Output.line
    ["Lints TypeScript for type-system anti-patterns and rewrites them", "",
      "Usage: typesmith [OPTIONS] <COMMAND>", "", "Commands:",
      "  check       Analyze files and optionally apply fixes", "  list-rules  List available rules",
      "  init        Write a starter typesmith.toml"]

/-- Runs a command. -/
def runAction (environment : Environment) (parsers : List SourceParser) (store : FileStore)
    (config : Option String) : Action → Result
  | .check arguments =>
    match check environment parsers store config arguments with
    | .ok run =>
      { exitCode := exitCode run.report, output := showReport arguments.format run.report
        store := run.store }
    | .error e => failed store e
  | .listRules => { exitCode := 0, output := ruleList, store }
  | .init force =>
    match init store force with
    | .ok written => { exitCode := 0, output := initMessage, store := written }
    | .error e => failed store e

/-- Runs the program. -/
def run (environment : Environment) (parsers : List SourceParser) (store : FileStore)
    (arguments : List String) : Result :=
  match parseArguments (environment.get? "TYPESMITH_CONFIG") arguments with
  | .error .usage => { exitCode := 2, output := Output.errorLine "usage", store }
  | .ok .help => { exitCode := 0, output := helpText, store }
  | .ok .version => { exitCode := 0, output := Output.line versionLine, store }
  | .ok (.run action config) => runAction environment parsers store config action

end TypeLint.Command
