import TypeLint.FileStore.Basic
import TypeLint.Ignore.Rules

/-!
# The user's own ignore file

Besides the ignore files of a project there is one of the user, for all repositories. The user's
settings may name it with a line `excludesFile = path`, in the settings file of the home directory or
else in the one of the directory for configuration; when neither does, it has a fixed place.

The settings are searched for that one line and are not read as a whole: sections and comments mean
nothing, the first line that has the form counts, and blanks may run over line ends.
-/

namespace TypeLint.Ignore

/-- A blank of ASCII, line ends included. -/
def isSettingBlank (c : Char) : Bool := c = ' ' || ('\t' ≤ c && c ≤ '\r')

/-- Nothing but blanks stands before the end of the line. -/
def isBlankLine (cs : List Char) : Bool :=
  match cs.dropWhile fun c => isSettingBlank c && c != '\n' with
  | [] => true
  | c :: _ => c = '\n'

/-- A value may end here: the rest of the line is blank, but for one closing quote. -/
def endsValue (cs : List Char) : Bool :=
  isBlankLine cs ||
    match cs.dropWhile isSettingBlank with
    | '"' :: rest => isBlankLine rest
    | _ => false

/-- The shortest text without blanks, of one character at least, after which a value may end. -/
def word? : List Char → Option (List Char)
  | [] => none
  | c :: rest =>
    if isSettingBlank c then none
    else if endsValue rest then some [c]
    else (word? rest).map (c :: ·)

/-- The value of a setting. A quote before it does not count, unless it is all there is. -/
def settingValue? (cs : List Char) : Option (List Char) :=
  match cs.dropWhile isSettingBlank with
  | '"' :: rest => (word? (rest.dropWhile isSettingBlank)).or (word? ('"' :: rest))
  | cs => word? cs

/-- The value of the setting with the given name, in small letters, if the text starts with it. Upper
and lower case are the same in the text. -/
def settingAt? (name : List Char) (cs : List Char) : Option (List Char) :=
  if (cs.take name.length).map Char.toLower = name then
    match (cs.drop name.length).dropWhile isSettingBlank with
    | '=' :: rest => settingValue? rest
    | _ => none
  else none

/-- The text after each line end. -/
def afterLineEnds : List Char → List (List Char)
  | [] => []
  | c :: rest => if c = '\n' then rest :: afterLineEnds rest else afterLineEnds rest

/-- The text from its start, and from the start of every other line. -/
def fromLines (cs : List Char) : List (List Char) := cs :: afterLineEnds cs

/-- The first value that the settings give the name of the ignore file. -/
def excludesFile? (settings : String) : Option String :=
  ((fromLines settings.toList).findSome? fun cs =>
    settingAt? "excludesfile".toList (cs.dropWhile isSettingBlank)).map String.ofList

/-- The path with the home directory for every `~`. -/
def expandHome (home : Option String) (path : String) : String :=
  match home with
  | none => path
  | some home =>
    String.ofList (path.toList.flatMap fun c => if c = '~' then home.toList else [c])

/-- The path of the user's ignore file, by the home directory and the directory for configuration,
which is `.config` in the home directory unless it is given. -/
def userFile? (store : FileStore) (home configuration : Option String) : Option String :=
  let configuration := configuration.or (home.map (Path.join · ".config"))
  let named (path : Option String) : Option String :=
    match path.map store.read with
    | some (.ok settings) => (excludesFile? settings).map (expandHome home)
    | _ => none
  (named (home.map (Path.join · ".gitconfig"))).or
    ((named (configuration.map (Path.join · "git/config"))).or
      (configuration.map (Path.join · "git/ignore")))

/-- The rules of the user's ignore file; there are none when there is no such file. -/
def userRules (store : FileStore) (home configuration : Option String) : List Rule :=
  match (userFile? store home configuration).map store.read with
  | some (.ok text) => rulesOf text
  | _ => []

end TypeLint.Ignore
