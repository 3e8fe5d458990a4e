import TypeLint.Catalog.Annotations
import TypeLint.Catalog.Assertions
import TypeLint.Catalog.BroadTypes
import TypeLint.Catalog.Comments
import TypeLint.Catalog.Declarations
import TypeLint.Catalog.Enums
import TypeLint.Catalog.Shapes
import TypeLint.Catalog.Signatures
import TypeLint.Catalog.TypeParameters
import TypeLint.Rule.RuleSet

/-!
# The catalog

The built-in rules in the order of their codes, which is also the order in which their fixes win, and
the presets to start from.
-/

namespace TypeLint

namespace Catalog

/-- The version of the catalog; it changes when a rule is added, renamed or changes its meaning. -/
def version : String := "1.0.0"

/-- Former names of rules, each with the name now. -/
def migrations : List (String × String) :=
  [("no-any", noExplicitAny.name), ("no-enum", preferUnionOverEnum.name),
    ("ban-ts-ignore", preferTsExpectError.name), ("no-empty-type", noEmptyInterface.name)]

/-- Every built-in rule. -/
def rules : List Rule :=
  [preferUnionOverEnum, noExplicitAny, noNonNullAssertion, noCasualTypeAssertion, noFunctionType,
    noObjectType, noAccidentalDeclarationMerging, preferSatisfies, noRedundantReturnType,
    requireExportedReturnType, preferNamedResultType, noUnnecessaryTypeParameter,
    preferFunctionProperty, preferDiscriminatedUnion, preferBrandedPrimitive, noEmptyInterface,
    noDoubleAssertion, preferAsConst, noWrapperObjectTypes, preferTsExpectError, noNamespace,
    noInferrableTypeAnnotation, preferRecordType]

/-- Adds the former names of the rules that the set has. -/
def migrate : RuleSet → List (String × String) → Except RuleSetError RuleSet
  | set, [] => .ok set
  | set, (old, new) :: rest =>
    if (set.resolve? new).isSome then do migrate (← set.withMigration old new) rest
    else migrate set rest

/-- The rule set of these rules under the catalog's version, with their former names. -/
def versioned (rules : List Rule) : Except RuleSetError RuleSet := do
  migrate ((← RuleSet.ofRules rules).withVersion version) migrations

end Catalog

/-- The named starting points: every rule, or the warnings only. -/
inductive Preset where
  | recommended
  | minimal
  deriving DecidableEq, Repr

namespace Preset

/-- Every preset. -/
def all : List Preset := [.recommended, .minimal]

/-- The name of a preset. -/
def name : Preset → String
  | .recommended => "recommended"
  | .minimal => "minimal"

/-- Reads the name of a preset in any case. -/
def parse (text : String) : Except String Preset :=
  match all.find? fun p => Text.eqIgnoringCase p.name text with
  | some p => .ok p
  | none => .error ("unknown preset `" ++ text ++ "` (expected recommended or minimal)")

/-- The rules of a preset. -/
def rules : Preset → List Rule
  | .recommended => Catalog.rules
  | .minimal => Catalog.rules.filter (·.severity == .warning)

/-- The rule set of a preset. -/
def ruleSet (p : Preset) : Except RuleSetError RuleSet := Catalog.versioned p.rules

end Preset

end TypeLint
