import TypeLint.Catalog.Basic
import TypeLint.Proofs.Rule.Identity

/-!
# The presets are rule sets

That a preset can be turned into a rule set is a matter of how its rules and their former names are
spelled. `Preset.ruleSet_ok` is what the rest of the theory uses: there is a rule set, it has the
rules of the preset, no name can be mistaken for a code, and its former names are those of the catalog
that lead to one of its rules.
-/

namespace TypeLint

namespace Catalog

/-- Adding former names leaves the rules alone. -/
theorem of_migrate_ok :
    ∀ {former : List (String × String)} {set set' : RuleSet}, migrate set former = .ok set' →
      set.Built → set'.rules = set.rules ∧ set'.Built
  | [], set, set', h, hb => by
    cases h
    exact ⟨rfl, hb⟩
  | (old, new) :: rest, set, set', h, hb => by
    rw [migrate] at h
    split at h
    next =>
      cases hstep : set.withMigration old new with
      | error e =>
        rw [hstep] at h
        cases h
      | ok next =>
        rw [hstep] at h
        obtain ⟨hrules, hbuilt⟩ := of_migrate_ok h (.withMigration hb hstep)
        obtain ⟨-, hnext⟩ := RuleSet.of_withMigration_ok hstep
        exact ⟨by rw [hrules, hnext], hbuilt⟩
    next => exact of_migrate_ok h hb

theorem of_versioned_ok {rules : List Rule} {set : RuleSet} (h : versioned rules = .ok set) :
    set.rules = rules ∧ set.Built := by
  unfold versioned at h
  cases hof : RuleSet.ofRules rules with
  | error e =>
    rw [hof] at h
    cases h
  | ok plain =>
    rw [hof] at h
    have hplain : plain.rules = rules := by
      unfold RuleSet.ofRules at hof
      cases hvalid : RuleSet.validateFrom [] rules with
      | error e =>
        rw [hvalid] at hof
        cases hof
      | ok u =>
        rw [hvalid] at hof
        cases hof
        rfl
    obtain ⟨hrules, hbuilt⟩ := of_migrate_ok h (.withVersion version (.ofRules hof))
    exact ⟨hrules.trans hplain, hbuilt⟩

end Catalog

theorem Text.length_eq_of_eqIgnoringCase {a b : String} (h : Text.eqIgnoringCase a b = true) :
    a.length = b.length := by
  have hlower : Text.lowerAscii a = Text.lowerAscii b := by simpa [Text.eqIgnoringCase] using h
  have hlength := congrArg String.length hlower
  unfold Text.lowerAscii at hlength
  simpa using hlength

namespace Preset

/-- The former names of the rules of a preset, each with the name now. -/
def formerNames (p : Preset) : List (String × String) :=
  (Catalog.migrations.filter fun e => p.rules.any (·.name == e.2)).reverse

theorem mem_catalog {p : Preset} {r : Rule} (h : r ∈ p.rules) : r ∈ Catalog.rules := by
  cases p with
  | recommended => exact h
  | minimal => exact (List.mem_filter.1 h).1

/-- Codes have five characters and names have not, so none is the other in another case. -/
theorem eqIgnoringCase_eq_false {r s : Rule} (hr : r ∈ Catalog.rules) (hs : s ∈ Catalog.rules) :
    Text.eqIgnoringCase r.name s.code = false := by
  have hlengths : ∀ r ∈ Catalog.rules, r.name.length ≠ 5 ∧ r.code.length = 5 := by decide +kernel
  rw [Bool.eq_false_iff]
  intro heq
  have hlength := Text.length_eq_of_eqIgnoringCase heq
  rw [(hlengths s hs).2] at hlength
  exact (hlengths r hr).1 hlength

/-- The spelling of the catalog, checked: both presets make a rule set, with these former names. -/
theorem renames_ruleSet (p : Preset) :
    p.ruleSet.toOption.map (·.renames) = some p.formerNames := by
  cases p with
  | recommended => decide +kernel
  | minimal => decide +kernel

/-- **Every preset is a rule set.** -/
theorem ruleSet_ok (p : Preset) :
    ∃ set, p.ruleSet = .ok set ∧ set.rules = p.rules ∧ set.renames = p.formerNames ∧ set.Built ∧
      set.Unambiguous := by
  have hrenames := p.renames_ruleSet
  cases hset : p.ruleSet with
  | error e =>
    rw [hset] at hrenames
    cases hrenames
  | ok set =>
    rw [hset] at hrenames
    obtain ⟨hrules, hbuilt⟩ := Catalog.of_versioned_ok hset
    refine ⟨set, rfl, hrules, Option.some.inj hrenames, hbuilt, fun r hr s hs _ => ?_⟩
    rw [hrules] at hr hs
    exact eqIgnoringCase_eq_false (mem_catalog hr) (mem_catalog hs)

/-- Of the former names of the catalog one leads to a rule that is no warning. -/
theorem formerNames_recommended :
    formerNames .recommended =
      ("no-empty-type", Catalog.noEmptyInterface.name) :: formerNames .minimal := by
  decide +kernel

end Preset

end TypeLint
