import TypeLint.Engine.Files
import TypeLint.Proofs.Fix.Edits

/-!
# Fixing a file changes all of it or nothing

`FileStore.fix` reads a file, makes the proposed fixes in its text and writes it back, and moves the
diagnostics along. Its outcomes are few, and `fix_cases` lists them: it fails and leaves the store as
it was, and only a drift touches the diagnostics; or it succeeds, and the file holds the new text.

`fix_all_or_nothing` draws the consequences for the store and for the list of diagnostics as a whole.
After a success nothing is proposed any more, so that fixing the file again finds no edits to make
and changes nothing.
-/

namespace TypeLint

/-! ## Moving a diagnostic along -/

namespace Diagnostic

/-- Only what was proposed is marked as applied. -/
theorem markApplied_eq (d : Diagnostic) :
    d.markApplied = if d.state = .fixProposed then { d with state := .applied } else d := by
  obtain ⟨code, rule, severity, location, span, message, help, fixes, state, note⟩ := d
  cases state <;> rfl

/-- Only what was proposed is rejected, with the reason. -/
theorem markDrifted_eq (d : Diagnostic) :
    d.markDrifted = if d.state = .fixProposed then
      { d with state := .rejected, note := some "manual: source changed since analysis" }
    else d := by
  obtain ⟨code, rule, severity, location, span, message, help, fixes, state, note⟩ := d
  cases state <;> rfl

theorem state_markApplied_ne (d : Diagnostic) : d.markApplied.state ≠ .fixProposed := by
  rw [markApplied_eq]
  split
  next => exact fun h => by cases h
  next h => exact h

theorem markApplied_markApplied (d : Diagnostic) : d.markApplied.markApplied = d.markApplied := by
  rw [markApplied_eq d.markApplied, if_neg (state_markApplied_ne d)]

theorem proposedFix?_markApplied (d : Diagnostic) : d.markApplied.proposedFix? = none :=
  if_neg (state_markApplied_ne d)

end Diagnostic

/-! ## Fixing with nothing to fix -/

theorem slice?_all (s : String) : Text.slice? s 0 s.utf8ByteSize = some s := by
  rw [Text.slice?_eq_some_iff]
  exact ⟨"", "", by simp, by simp, by simp⟩

theorem applyEdits_nil (source : String) : applyEdits source [] = .ok source := by
  have hsorted : Edit.sorted [] = [] := List.mergeSort_nil
  unfold applyEdits
  simp only [hsorted, Edit.firstOverlap?, Edit.splice, slice?_all, Option.getD_some]

/-- Where nothing is proposed the text stays as it is. -/
theorem applyFixes_of_none_proposed {source : String} {ds : List Diagnostic}
    (h : ∀ d ∈ ds, d.proposedFix? = none) : applyFixes source ds = .ok source := by
  have hnone : ds.filterMap Diagnostic.proposedFix? = [] := List.filterMap_eq_nil_iff.2 h
  unfold applyFixes
  simp only [hnone, List.find?_nil, List.flatMap_nil]
  exact applyEdits_nil source

namespace FileStore

variable {store : FileStore} {path : String} {ds : List Diagnostic}

/-! ## What a write leaves alone -/

/-- Writing a file changes no other place. -/
theorem item?_write_ne {written : FileStore} {text : String} {place : Place}
    (h : store.write path text = .ok written) (hne : store.locate path ≠ .ok place) :
    written.item? place = store.item? place := by
  unfold write at h
  split at h
  next => cases h
  next here hloc =>
    split at h
    next => cases h
    next =>
      split at h
      next => cases h
      next =>
        cases h
        exact item?_put_ne fun he => hne (he ▸ hloc)

/-! ## The outcomes of a fix -/

/-- A fix succeeds, with the file rewritten unless its text is what it was; or it finds the text
changed; or it fails otherwise and leaves everything as it was. -/
theorem fix_cases (store : FileStore) (path : String) (ds : List Diagnostic) :
    (∃ old t after, store.read path = .ok old ∧ applyFixes old ds = .ok t ∧
      (t = old ∧ after = store ∨ store.write path t = .ok after) ∧
      store.fix path ds = ⟨.ok t, after, ds.map (·.markApplied)⟩) ∨
    (∃ old span expected found, store.read path = .ok old ∧
      applyFixes old ds = .error (.sourceDrift span expected found) ∧
      store.fix path ds =
        ⟨.error (.sourceDrift span expected found), store, ds.map (·.markDrifted)⟩) ∨
    (∃ e, (∀ span expected found, e ≠ .sourceDrift span expected found) ∧
      (∀ old t, store.read path = .ok old → applyFixes old ds = .ok t →
        t ≠ old ∧ ∃ cause, store.write path t = .error cause) ∧
      store.fix path ds = ⟨.error e, store, ds⟩) := by
  unfold fix
  split
  next e hread =>
    refine Or.inr (Or.inr ⟨.io path e.message, fun _ _ _ h => (by cases h), fun old t h => ?_, rfl⟩)
    rw [hread] at h
    cases h
  next source hread =>
    split
    next span expected found happly =>
      exact Or.inr (Or.inl ⟨source, span, expected, found, hread, happly, rfl⟩)
    next e hnot happly =>
      refine Or.inr (Or.inr ⟨e, fun span expected found he => ?_, fun old t h h' => ?_, rfl⟩)
      · exact hnot span expected found he
      · rw [hread] at h
        cases h
        rw [happly] at h'
        cases h'
    next fixed happly =>
      split
      next hsame =>
        exact Or.inl ⟨source, fixed, store, hread, happly, Or.inl ⟨hsame, rfl⟩, rfl⟩
      next hne =>
        split
        next e hwrite =>
          refine Or.inr (Or.inr
            ⟨.io path e.message, fun _ _ _ h => (by cases h), fun old t h h' => ?_, rfl⟩)
          rw [hread] at h
          cases h
          rw [happly] at h'
          cases h'
          exact ⟨hne, e, hwrite⟩
        next written hwrite =>
          exact Or.inl ⟨source, fixed, written, hread, happly, Or.inr hwrite, rfl⟩

/-- Fixing a file in which nothing is proposed any more answers its text and changes nothing. -/
theorem fix_of_none_proposed {t : String} (hread : store.read path = .ok t) :
    store.fix path (ds.map (·.markApplied)) = ⟨.ok t, store, ds.map (·.markApplied)⟩ := by
  have happly : applyFixes t (ds.map (·.markApplied)) = .ok t := by
    refine applyFixes_of_none_proposed fun d hd => ?_
    obtain ⟨d', -, rfl⟩ := List.mem_map.1 hd
    exact d'.proposedFix?_markApplied
  have hagain : (ds.map (·.markApplied)).map (·.markApplied) = ds.map (·.markApplied) := by
    rw [List.map_map]
    exact List.map_congr_left fun d _ => d.markApplied_markApplied
  unfold fix
  rw [hread]
  simp only [happly, if_true, hagain]

/-- A fix succeeds exactly when the file can be read, the proposed fixes apply to its text, and the
new text can be written where it differs. -/
theorem fix_result_ok_iff {t : String} :
    (store.fix path ds).result = .ok t ↔
      ∃ old, store.read path = .ok old ∧ applyFixes old ds = .ok t ∧
        (t = old ∨ ∃ written, store.write path t = .ok written) := by
  obtain ⟨old, t', after, hread, happly, hafter, hfix⟩ |
    ⟨old, span, expected, found, hread, happly, hfix⟩ | ⟨e, -, hfail, hfix⟩ :=
    fix_cases store path ds
  · rw [hfix]
    constructor
    · intro h
      cases h
      exact ⟨old, hread, happly, hafter.imp And.left fun hwrite => ⟨after, hwrite⟩⟩
    · intro h
      obtain ⟨old', hread', happly', -⟩ := h
      rw [hread] at hread'
      cases hread'
      rw [← happly', happly]
  · rw [hfix]
    constructor
    · intro h
      cases h
    · intro h
      obtain ⟨old', hread', happly', -⟩ := h
      rw [hread] at hread'
      cases hread'
      rw [happly] at happly'
      cases happly'
  · rw [hfix]
    constructor
    · intro h
      cases h
    · intro h
      obtain ⟨old, hread, happly, hdone⟩ := h
      obtain ⟨hne, cause, hwrite⟩ := hfail old t hread happly
      rcases hdone with hsame | ⟨written, hok⟩
      · exact absurd hsame hne
      · rw [hwrite] at hok
        cases hok

/-- What a success leaves behind: the new text in its file, every other place as it was, and nothing
proposed any more. -/
theorem fix_of_ok {t : String} (h : (store.fix path ds).result = .ok t) :
    ∃ after, store.fix path ds = ⟨.ok t, after, ds.map (·.markApplied)⟩ ∧
      after.read path = .ok t ∧
      ∀ place, store.locate path ≠ .ok place → after.item? place = store.item? place := by
  obtain ⟨old, t', after, hread, -, hafter, hfix⟩ | ⟨_, _, _, _, -, -, hfix⟩ | ⟨e, -, -, hfix⟩ :=
    fix_cases store path ds
  · rw [hfix] at h
    cases h
    refine ⟨after, hfix, ?_⟩
    rcases hafter with ⟨rfl, rfl⟩ | hwrite
    · exact ⟨hread, fun _ _ => rfl⟩
    · exact ⟨read_write hwrite, fun _ hne => item?_write_ne hwrite hne⟩
  · rw [hfix] at h
    cases h
  · rw [hfix] at h
    cases h

/-- A failure leaves the store as it was, and the diagnostics too unless the text was found
changed. -/
theorem fix_of_error {e : EditError} :
    (store.fix path ds).result = .error e →
      store.fix path ds = ⟨.error e, store,
        match e with
        | .sourceDrift _ _ _ => ds.map (·.markDrifted)
        | _ => ds⟩ := by
  intro h
  obtain ⟨_, _, _, -, -, -, hfix⟩ | ⟨old, span, expected, found, -, -, hfix⟩ | ⟨e', hdrift, -, hfix⟩ :=
    fix_cases store path ds
  · rw [hfix] at h
    cases h
  · rw [hfix] at h
    cases h
    exact hfix
  · rw [hfix] at h
    cases h
    rw [hfix]
    split
    next span expected found => exact absurd rfl (hdrift span expected found)
    next => rfl

/-- **Fixing a file is all or nothing.** It succeeds exactly when the file can be read, the proposed
fixes apply to its text and the new text can be written where it differs. Then the file holds the new
text, every other place is as it was, the proposed diagnostics and no others are applied, and a second
fix changes nothing. When it fails the store is as it was, and the diagnostics are too unless the text
was found changed, which rejects exactly the proposed ones. -/
theorem fix_all_or_nothing (store : FileStore) (path : String) (ds : List Diagnostic) :
    (∀ t, (store.fix path ds).result = .ok t ↔
      ∃ old, store.read path = .ok old ∧ applyFixes old ds = .ok t ∧
        (t = old ∨ ∃ written, store.write path t = .ok written)) ∧
    (∀ t, (store.fix path ds).result = .ok t →
      (store.fix path ds).store.read path = .ok t ∧
      (∀ place, store.locate path ≠ .ok place →
        (store.fix path ds).store.item? place = store.item? place) ∧
      (store.fix path ds).diagnostics =
        ds.map (fun d => if d.state = .fixProposed then { d with state := .applied } else d) ∧
      (store.fix path ds).store.fix path (store.fix path ds).diagnostics =
        ⟨.ok t, (store.fix path ds).store, (store.fix path ds).diagnostics⟩) ∧
    (∀ e, (store.fix path ds).result = .error e →
      (store.fix path ds).store = store ∧
      (store.fix path ds).diagnostics =
        match e with
        | .sourceDrift _ _ _ => ds.map (fun d =>
            if d.state = .fixProposed then
              { d with state := .rejected, note := some "manual: source changed since analysis" }
            else d)
        | _ => ds) := by
  refine ⟨fun t => fix_result_ok_iff, ?_, ?_⟩
  · intro t hok
    obtain ⟨after, hfix, hread, hframe⟩ := fix_of_ok hok
    rw [hfix]
    refine ⟨hread, hframe, ?_, fix_of_none_proposed hread⟩
    exact List.map_congr_left fun d _ => d.markApplied_eq
  · intro e herr
    rw [fix_of_error herr]
    refine ⟨rfl, ?_⟩
    cases e with
    | sourceDrift span expected found => exact List.map_congr_left fun d _ => d.markDrifted_eq
    | _ => rfl

end FileStore

end TypeLint
