import TypeLint.ContentHash
import TypeLint.Diagnostic.Basic

/-!
# Making the proposed fixes

All the fixes that diagnostics propose for one text are made together or not at all, and only if the
text is the one they were made for.
-/

namespace TypeLint

/-- How a content hash is shown when a text has changed. -/
def hashText (hash : UInt64) : String := "content hash " ++ Text.hexPadded 16 hash.toNat

/-- The text with every proposed fix made. A fix whose fingerprint is that of another text stops
all of them. -/
def applyFixes (source : String) (diagnostics : List Diagnostic) : Except EditError String :=
  let fixes := diagnostics.filterMap Diagnostic.proposedFix?
  let current := contentHash source
  match fixes.find? fun f => f.fingerprint != 0 && f.fingerprint != current with
  | some stale =>
    .error (.sourceDrift (stale.span?.getD (.point 0)) (hashText stale.fingerprint)
      (hashText current))
  | none => applyEdits source (fixes.flatMap (·.edits))

namespace Diagnostic

/-- After the fixes were made: what was proposed is applied. -/
def markApplied (d : Diagnostic) : Diagnostic :=
  match d.transition .applied with
  | .ok d => d
  | .error _ => d

/-- After the text was found changed: what was proposed is rejected. -/
def markDrifted (d : Diagnostic) : Diagnostic :=
  match d.transition .rejected with
  | .ok d => { d with note := some "manual: source changed since analysis" }
  | .error _ => d

end Diagnostic

end TypeLint
