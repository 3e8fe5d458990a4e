import TypeLint.Command.Run

/-!
# The program

Reads the files below the current directory, runs the command on them, writes back the files that
the command changed and shows what it wrote. A grammar of the language is not part of the library;
without one every source file is reported as one that cannot be parsed.
-/

namespace TypeLint

/-- Adds what is below a directory on disk to a store. -/
partial def readBelow (store : FileStore) (place : Place) : IO FileStore := do
  let here ← IO.FS.realPath ("/".intercalate ("." :: place))
  let mut store := store
  for entry in ← here.readDir do
    let inner := place ++ [entry.fileName]
    match (← entry.path.symlinkMetadata).type with
    | .dir => store ← readBelow (store.put inner .directory) inner
    | .file => store := store.put inner (.file (← IO.FS.readBinFile entry.path))
    | _ => pure ()
  return store

/-- Writes the files of `new` that are not the same in `old`. -/
def writeChanges (old new : FileStore) : IO Unit := do
  for (place, item) in new.items do
    match item, old.item? place with
    | .file content, some (.file before) =>
      if content != before then IO.FS.writeBinFile ("/".intercalate place) content
    | .file content, _ => IO.FS.writeBinFile ("/".intercalate place) content
    | .directory, _ => pure ()

/-- The variables of the environment that a command looks at. -/
def variableNames : List String :=
  ["HOME", "TYPESMITH_CONFIG", "TYPESMITH_CONFIG_DIR", "XDG_CONFIG_HOME"]

/-- A grammar that knows no language. -/
def noGrammar : SourceParser.Grammar := fun _ _ => .ok (.error ⟨"no grammar available", 0, 0⟩)

end TypeLint

open TypeLint in
/-- Runs the program. -/
def main (arguments : List String) : IO UInt32 := do
  let environment ← variableNames.filterMapM fun name => do
    return (← IO.getEnv name).map fun value => (name, value)
  let store ← readBelow {} []
  let result := Command.run environment (SourceParser.standard noGrammar noGrammar) store arguments
  writeChanges store result.store
  IO.print result.output.output
  IO.eprint result.output.errors
  return result.exitCode.toUInt32
