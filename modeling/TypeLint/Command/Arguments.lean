import TypeLint.Diagnostic.Basic
import TypeLint.Text.Chars

/-!
# Command line arguments

Arguments are read from left to right at two levels, before and after the name of a command. At each
level an option may be given once, unless it collects values; a value stands in the next argument,
which must not look like an option, or right behind the option. After `--` everything is a path.
-/

namespace TypeLint.Command

/-- How a report is shown. -/
inductive OutputFormat where
  | text
  | json
  | compact
  deriving DecidableEq, Repr

/-- Reads the name of a format. -/
def OutputFormat.ofName? : String → Option OutputFormat
  | "text" => some .text
  | "json" => some .json
  | "compact" => some .compact
  | _ => none

/-- What to check and how. -/
structure CheckArguments where
  paths : List String := ["."]
  fix : Bool := false
  severity : Option Severity := none
  format : OutputFormat := .text
  rules : List String := []
  deny : List String := []
  jobs : Option Nat := none
  timeoutMs : Option Nat := none
  noTypeInfo : Bool := false
  exclude : List String := []
  deriving DecidableEq, Repr

/-- The commands. -/
inductive Action where
  | check (arguments : CheckArguments)
  | listRules
  | init (force : Bool)
  deriving DecidableEq, Repr

/-- What the arguments ask for. -/
inductive Request where
  | run (action : Action) (config : Option String)
  | help
  | version
  deriving DecidableEq, Repr

/-- The arguments make no sense. -/
inductive ArgumentError where
  | usage
  deriving DecidableEq, Repr

/-! ## Options -/

/-- The options of all commands. -/
inductive Flag where
  | help
  | version
  | verbose
  | config
  | fix
  | severity
  | format
  | rules
  | deny
  | jobs
  | timeoutMs
  | noTypeInfo
  | exclude
  | force
  deriving DecidableEq, Repr

/-- The long name of an option, without its dashes. -/
def Flag.long : Flag → String
  | .help => "help"
  | .version => "version"
  | .verbose => "verbose"
  | .config => "config"
  | .fix => "fix"
  | .severity => "severity"
  | .format => "format"
  | .rules => "rules"
  | .deny => "deny"
  | .jobs => "jobs"
  | .timeoutMs => "timeout-ms"
  | .noTypeInfo => "no-type-info"
  | .exclude => "exclude"
  | .force => "force"

/-- The letter of an option, if it has one. -/
def Flag.short? : Flag → Option Char
  | .help => some 'h'
  | .version => some 'V'
  | .verbose => some 'v'
  | .config => some 'c'
  | .format => some 'f'
  | .jobs => some 'j'
  | .exclude => some 'e'
  | _ => none

/-- The option stands before a value. -/
def Flag.takesValue : Flag → Bool
  | .help => false
  | .version => false
  | .verbose => false
  | .fix => false
  | .noTypeInfo => false
  | .force => false
  | _ => true

/-- The option may be given again to add values. -/
def Flag.collects : Flag → Bool
  | .rules => true
  | .deny => true
  | .exclude => true
  | _ => false

/-- A number below two to the power sixty-four, with or without a plus sign. -/
def number? (text : String) : Option Nat :=
  let digits := match text.toList with
    | '+' :: rest => rest
    | cs => cs
  let n := digits.foldl (fun n c => n * 10 + (c.toNat - '0'.toNat)) 0
  if !digits.isEmpty && digits.all Text.isDigit && n < 18446744073709551616 then some n else none

/-- The value is one that the option takes. -/
def Flag.admits (flag : Flag) (value : String) : Bool :=
  match flag with
  | .severity => (Severity.parse value).toOption.isSome
  | .format => (OutputFormat.ofName? value).isSome
  | .jobs => (number? value).isSome
  | .timeoutMs => (number? value).isSome
  | .config => value != ""
  | _ => true

/-- The values of an argument: lists of rules have commas between them. -/
def Flag.values (flag : Flag) (value : String) : List String :=
  match flag with
  | .rules => (Text.splitAt ',' value.toList).map String.ofList
  | .deny => (Text.splitAt ',' value.toList).map String.ofList
  | _ => [value]

/-- The options of the program itself. -/
def programFlags : List Flag := [.help, .version, .verbose, .config]

/-- The options of `check`. -/
def checkFlags : List Flag :=
  [.help, .verbose, .config, .fix, .severity, .format, .rules, .deny, .jobs, .timeoutMs,
    .noTypeInfo, .exclude]

/-- The options of `list-rules`. -/
def listRulesFlags : List Flag := [.help, .verbose, .config]

/-- The options of `init`. -/
def initFlags : List Flag := [.help, .verbose, .config, .force]

/-! ## One level -/

/-- The options read at one level, in order, and the paths. -/
structure Level where
  options : List (Flag × String) := []
  paths : List String := []

namespace Level

/-- The option was given. -/
def has (level : Level) (flag : Flag) : Bool := level.options.any (·.1 == flag)

/-- The first value of an option. -/
def value? (level : Level) (flag : Flag) : Option String :=
  (level.options.find? (·.1 == flag)).map (·.2)

/-- Every value that an option collected. -/
def collected (level : Level) (flag : Flag) : List String :=
  (level.options.filter (·.1 == flag)).flatMap fun (_, value) => flag.values value

end Level

/-- How the reading of a level ends: at its end, at the name of a command with the arguments after
it, or at a request for help or the version. -/
inductive LevelEnd where
  | done (level : Level)
  | command (level : Level) (name : String) (rest : List String)
  | help
  | version

/-- The argument looks like an option. -/
def looksLikeOption (argument : String) : Bool :=
  argument != "-" && Text.startsWith argument "-"

/-- Adds an option with its value. -/
def Level.add (level : Level) (flag : Flag) (value : String) : Except ArgumentError Level :=
  if (level.has flag && !flag.collects) || !flag.admits value then .error .usage
  else .ok { level with options := level.options ++ [(flag, value)] }

/-- How an argument continues: with the level after it, with an option that waits for its value, or
not at all. -/
inductive Progress where
  | read (level : Level)
  | waiting (level : Level) (flag : Flag)
  | stopped (ending : LevelEnd)

/-- Reads an option given by its long name, perhaps with a value behind `=`. -/
def readLong (flags : List Flag) (level : Level) (text : List Char) :
    Except ArgumentError Progress := do
  let (name, value) := match Text.cut? '=' text with
    | some (name, value) => (name, some value)
    | none => (text, none)
  match flags.find? fun f => f.long.toList = name with
  | none => .error .usage
  | some flag =>
    match value with
    | some value =>
      if flag.takesValue then return .read (← level.add flag (String.ofList value)) else .error .usage
    | none =>
      if flag.takesValue then return .waiting level flag
      else
        match flag with
        | .help => return .stopped .help
        | .version => return .stopped .version
        | flag => return .read (← level.add flag "")

/-- Reads options given by their letters; what follows one that takes a value is its value. -/
def readShort (flags : List Flag) : Level → List Char → Except ArgumentError Progress
  | level, [] => .ok (.read level)
  | level, c :: rest =>
    match flags.find? fun f => f.short? = some c with
    | none => .error .usage
    | some flag =>
      if flag.takesValue then
        match rest with
        | [] => .ok (.waiting level flag)
        | '=' :: value => do return .read (← level.add flag (String.ofList value))
        | value => do return .read (← level.add flag (String.ofList value))
      else
        match flag with
        | .help => .ok (.stopped .help)
        | .version => .ok (.stopped .version)
        | flag => do readShort flags (← level.add flag "") rest

/-- What an argument that is no option is at a level: a path, the name of a command, or a mistake. -/
inductive Operands where
  | paths
  | command
  | none
  deriving DecidableEq, Repr

/-- Reads one level. -/
def readLevel (flags : List Flag) (operands : Operands) :
    Level → List String → Except ArgumentError LevelEnd
  | level, [] => .ok (.done level)
  | level, argument :: rest => do
    if argument = "--" then
      if operands = .paths then return .done { level with paths := level.paths ++ rest }
      else if rest.isEmpty then return .done level
      else .error .usage
    else if looksLikeOption argument then
      let progress ← match Text.after? ['-', '-'] argument.toList with
        | some text => readLong flags level text
        | none => readShort flags level argument.toList.tail
      match progress with
      | .read level => readLevel flags operands level rest
      | .stopped ending => return ending
      | .waiting level flag =>
        match rest with
        | value :: rest =>
          if looksLikeOption value then .error .usage
          else readLevel flags operands (← level.add flag value) rest
        | [] => .error .usage
    else
      match operands with
      | .paths => readLevel flags operands { level with paths := level.paths ++ [argument] } rest
      | .command => return .command level argument rest
      | .none => .error .usage
termination_by _ arguments => arguments.length

/-! ## Both levels -/

/-- The configuration that a level names, or else the environment, which must not be empty. -/
def configOf (level : Level) (environment : Option String) : Except ArgumentError (Option String) :=
  match level.value? .config, environment with
  | some path, _ => .ok (some path)
  | none, some "" => .error .usage
  | none, environment => .ok environment

/-- What the options of `check` say. -/
def CheckArguments.ofLevel (level : Level) : CheckArguments where
  paths := if level.paths.isEmpty then ["."] else level.paths
  fix := level.has .fix
  severity := (level.value? .severity).bind fun v => (Severity.parse v).toOption
  format := ((level.value? .format).bind OutputFormat.ofName?).getD .text
  rules := level.collected .rules
  deny := level.collected .deny
  jobs := (level.value? .jobs).bind number?
  timeoutMs := (level.value? .timeoutMs).bind number?
  noTypeInfo := level.has .noTypeInfo
  exclude := level.collected .exclude

/-- Reads the arguments of a command. `above` is the level before its name. -/
def readCommand (environment : Option String) (above : Level) (flags : List Flag)
    (operands : Operands) (action : Level → Action) (rest : List String) :
    Except ArgumentError Request := do
  match ← readLevel flags operands {} rest with
  | .done level =>
    -- an empty variable is refused at every level that names no configuration
    let outer ← configOf above environment
    let inner ← configOf level environment
    let given := (level.value? .config).or (above.value? .config)
    return .run (action level) (given.or (inner.or outer))
  | .help => return .help
  | _ => .error .usage

/-- The names of the commands. -/
def commandNames : List String := ["check", "list-rules", "init", "help"]

/-- Reads the arguments. `environment` is the configuration that the environment names. -/
def parseArguments (environment : Option String) (arguments : List String) :
    Except ArgumentError Request := do
  match ← readLevel programFlags .command {} arguments with
  | .help => return .help
  | .version => return .version
  | .done _ => .error .usage
  | .command above name rest =>
    match name with
    | "check" =>
      readCommand environment above checkFlags .paths (fun l => .check (.ofLevel l)) rest
    | "list-rules" => readCommand environment above listRulesFlags .none (fun _ => .listRules) rest
    | "init" => readCommand environment above initFlags .none (fun l => .init (l.has .force)) rest
    | "help" =>
      match rest with
      | [] => return .help
      | [topic] => if topic ∈ commandNames then return .help else .error .usage
      | _ => .error .usage
    | _ => .error .usage

end TypeLint.Command
