import TypeLint.Rule.Basic

/-!
# Rule sets

A rule set is a list of rules in registration order with a version and a table of former names. A
rule answers to its name, to its code in any case and to its former names. `RuleSet.ofRules` admits
only well-spelled and distinct identifiers; `filter` selects rules without reordering them.
-/

namespace TypeLint

/-- Why a rule set cannot be built or selected from. -/
inductive RuleSetError where
  | duplicate (id : String)
  | invalidName (name : String)
  | invalidCode (code : String)
  | unknownRule (id : String)
  deriving DecidableEq, Repr

/-- The error in words. -/
def RuleSetError.message : RuleSetError → String
  | .duplicate id => "duplicate rule identifier `" ++ id ++ "`"
  | .invalidName name => "invalid rule name `" ++ name ++ "`: expected kebab-case"
  | .invalidCode code =>
    "invalid rule code `" ++ code ++ "`: expected two uppercase letters and three digits"
  | .unknownRule id => "unknown rule `" ++ id ++ "`"

/-- Small letters and digits in groups with single hyphens between them. -/
def isKebabCase (name : String) : Bool :=
  (Text.splitAt '-' name.toList).all fun group =>
    !group.isEmpty && group.all fun c => Text.isLower c || Text.isDigit c

/-- Two capital letters and three digits. -/
def isRuleCode (code : String) : Bool :=
  match code.toList with
  | [a, b, x, y, z] => [a, b].all Text.isUpper && [x, y, z].all Text.isDigit
  | _ => false

/-- Which rules to run: those allowed, or all when none is listed, and none that is denied. -/
structure RuleFilter where
  allow : List String := []
  deny : List String := []
  deriving DecidableEq, Repr

/-- The filter keeps every rule. -/
def RuleFilter.isEmpty (f : RuleFilter) : Bool := f.allow.isEmpty && f.deny.isEmpty

/-- Rules in registration order, with the former names of some of them. -/
structure RuleSet where
  version : String
  rules : List Rule
  renames : List (String × String)

namespace RuleSet

/-- Goes through the rules in order with the identifiers seen so far. -/
def validateFrom (seen : List String) : List Rule → Except RuleSetError Unit
  | [] => .ok ()
  | rule :: rest =>
    if !isKebabCase rule.name then .error (.invalidName rule.name)
    else if !isRuleCode rule.code then .error (.invalidCode rule.code)
    else if seen.contains rule.name then .error (.duplicate rule.name)
    else if (rule.name :: seen).contains rule.code then .error (.duplicate rule.code)
    else validateFrom (rule.code :: rule.name :: seen) rest

/-- The rule set of a list of rules. -/
def ofRules (rules : List Rule) : Except RuleSetError RuleSet := do
  validateFrom [] rules
  return { version := "0", rules, renames := [] }

/-- The same rules under another version. -/
def withVersion (set : RuleSet) (version : String) : RuleSet := { set with version }

/-- Number of rules. -/
def size (set : RuleSet) : Nat := set.rules.length

/-- The rule at a registration position. -/
def rule? (set : RuleSet) (i : Nat) : Option Rule := set.rules[i]?

/-- The identifier is the rule's name, or its code in any case. -/
def answersTo (id : String) (rule : Rule) : Bool :=
  rule.name == id || Text.eqIgnoringCase rule.code id

/-- The position of the first rule that answers to an identifier. -/
def find? (set : RuleSet) (id : String) : Option Nat := set.rules.findIdx? (answersTo id)

/-- The name that took the place of a former one. -/
def renamed? (set : RuleSet) (old : String) : Option String :=
  (set.renames.find? (·.1 == old)).map (·.2)

/-- The position of a rule by name, code or former name. -/
def indexOf? (set : RuleSet) (id : String) : Option Nat :=
  (set.find? id).or ((set.renamed? id).bind set.find?)

/-- The rule of a name, code or former name. -/
def resolve? (set : RuleSet) (id : String) : Option Rule := (set.indexOf? id).bind set.rule?

/-- The current name behind an identifier. -/
def currentName? (set : RuleSet) (id : String) : Option String := (set.resolve? id).map (·.name)

/-- Records that `old` is now called `new`. The new name must be that of a rule and the old one of
none. -/
def withMigration (set : RuleSet) (old new : String) : Except RuleSetError RuleSet :=
  if (set.find? new).isNone then .error (.unknownRule new)
  else if (set.find? old).isSome then .error (.duplicate old)
  else .ok { set with renames := (old, new) :: set.renames.filter (·.1 != old) }

/-- The positions that identifiers stand for, or the first identifier that stands for none. -/
def lookup (set : RuleSet) : List String → Except RuleSetError (List Nat)
  | [] => .ok []
  | id :: ids =>
    match set.indexOf? id with
    | none => .error (.unknownRule id)
    | some i => do return i :: (← set.lookup ids)

/-- The selected rules in their order; version and former names stay. -/
def filter (set : RuleSet) (f : RuleFilter) : Except RuleSetError RuleSet := do
  let allow ← set.lookup f.allow
  let deny ← set.lookup f.deny
  let kept := set.rules.zipIdx.filter fun (_, i) =>
    (allow.isEmpty || allow.contains i) && !deny.contains i
  return { set with rules := kept.map (·.1) }

end RuleSet

/-- Whether a directive excuses a rule at an offset. A directive may name the rule by any of its
identifiers. -/
def FileContext.allowed (ctx : FileContext) (offset : Nat) (ruleName : String) (rules : RuleSet) :
    Allow.Check :=
  ctx.allows.check (ctx.position offset).line fun id =>
    id == ruleName || rules.currentName? id == some ruleName

end TypeLint
