import TypeLint.Diagnostic.Apply
import TypeLint.Engine.Basic
import TypeLint.FileStore.Basic

/-!
# The analysis of stored files

A batch of files is analyzed in the order given; a file that cannot be read has a report that says
so. `FileStore.fix` makes the proposed fixes of one file: the file and the diagnostics change
together or the file does not change at all.
-/

namespace TypeLint

namespace Engine

/-- The report on one stored file. Once the engine is cancelled no file is started. -/
def runFile (engine : Engine) (store : FileStore) (rules : RuleSet) (options : AnalyzeOptions)
    (path : String) : FileReport :=
  if engine.cancelled then { path, outcome := .cancelled }
  else
    match store.read path with
    | .ok source => engine.run rules options path source
    | .error e => { path, outcome := .io e.message }

/-- The report on a batch of stored files. -/
def analyzeFiles (engine : Engine) (store : FileStore) (options : AnalyzeOptions)
    (paths : List String) : Except EngineError BatchReport := do
  let rules ← engine.activeRules options.filter
  return .ofFiles (paths.map (engine.runFile store rules options))

end Engine

/-- What making the fixes of a file leaves behind. -/
structure FixRun where
  result : Except EditError String
  store : FileStore
  diagnostics : List Diagnostic

/-- Makes the proposed fixes in a stored file. When the file is not the one that was analyzed, what
was proposed is rejected; any other error leaves the diagnostics as they are. -/
def FileStore.fix (store : FileStore) (path : String) (diagnostics : List Diagnostic) : FixRun :=
  match store.read path with
  | .error e => ⟨.error (.io path e.message), store, diagnostics⟩
  | .ok source =>
    match applyFixes source diagnostics with
    | .error (.sourceDrift span expected found) =>
      ⟨.error (.sourceDrift span expected found), store, diagnostics.map (·.markDrifted)⟩
    | .error e => ⟨.error e, store, diagnostics⟩
    | .ok fixed =>
      if fixed = source then ⟨.ok fixed, store, diagnostics.map (·.markApplied)⟩
      else
        match store.write path fixed with
        | .error e => ⟨.error (.io path e.message), store, diagnostics⟩
        | .ok written => ⟨.ok fixed, written, diagnostics.map (·.markApplied)⟩

end TypeLint
