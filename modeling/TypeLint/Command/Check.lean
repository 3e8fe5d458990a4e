import TypeLint.Catalog.Basic
import TypeLint.Command.Discovery
import TypeLint.Engine.Files
import TypeLint.TypeInfo.Local

/-!
# The check command

Finds files, analyzes them and, if asked to, makes the proposed fixes. The counts of the report are
those of the analysis; fixes that are made afterwards show in the diagnostics.
-/

namespace TypeLint.Command

/-- What a check leaves behind. -/
structure CheckRun where
  report : BatchReport
  store : FileStore

/-- Some fix of the file is proposed. -/
def isFixable (file : FileReport) : Bool := file.diagnostics.any (·.state == .fixProposed)

/-- Makes the proposed fixes of files, one file after another; a file whose fixes cannot be made
stays as it is. -/
def fixFiles (store : FileStore) : List FileReport → FileStore × List FileReport
  | [] => (store, [])
  | file :: rest =>
    if isFixable file then
      let run := store.fix file.path file.diagnostics
      let (store, files) := fixFiles run.store rest
      (store, { file with diagnostics := run.diagnostics } :: files)
    else
      let (store, files) := fixFiles store rest
      (store, file :: files)

/-- Makes the proposed fixes of a report. -/
def fixReport (store : FileStore) (report : BatchReport) : CheckRun :=
  let (store, files) := fixFiles store report.files
  { report := { report with files }, store }

/-- The preset that the configuration names. -/
def presetOf (config : Config) : Except CommandError Preset :=
  match config.preset with
  | none => .ok .recommended
  | some name =>
    match Preset.parse name with
    | .ok preset => .ok preset
    | .error message => .error (.preset message)

/-- The engine of a check. -/
def engineOf (config : Config) (parsers : List SourceParser) : Except CommandError Engine := do
  let preset ← presetOf config
  match preset.ruleSet with
  | .error cause => .error (.ruleSet cause)
  | .ok rules =>
    match Engine.make rules parsers (some LocalTypes.oracle) with
    | .error cause => .error (.engine cause)
    | .ok engine => .ok engine

/-- Checks the files that the arguments name. -/
def check (environment : Environment) (parsers : List SourceParser) (store : FileStore)
    (named : Option String) (arguments : CheckArguments) : Except CommandError CheckRun := do
  let directory := projectDirectory store arguments.paths
  let config := arguments.applyTo (← (ConfigSource.find store environment directory named).load store)
  let engine ← engineOf config parsers
  let files ← discover store environment config engine.handles arguments.paths
  match engine.analyzeFiles store config.options files with
  | .error cause => .error (.analysis cause)
  | .ok report => return if arguments.fix then fixReport store report else { report, store }

end TypeLint.Command
