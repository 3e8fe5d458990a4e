import TypeLint.Text.Chars

/-!
# File paths

Paths are texts with `/` between their names. Empty names and `.` say nothing, except that a leading
`.` is kept when paths are compared.
-/

namespace TypeLint.Path

/-- The path starts at the root of the file system. -/
def isAbsolute (path : String) : Bool := Text.startsWith path "/"

/-- The names of a path, in order. -/
def names (path : String) : List String :=
  ((Text.splitAt '/' path.toList).map String.ofList).filter fun c => c != "" && c != "."

/-- The last name; there is none when the path is empty, the root, or ends in `..`. -/
def fileName? (path : String) : Option String :=
  match (names path).getLast? with
  | some ".." => none
  | last => last

/-- Puts a relative path below a directory. An absolute path stands for itself. -/
def join (directory path : String) : String :=
  if isAbsolute path then path
  else if directory == "" then path
  else if Text.endsWith directory "/" then directory ++ path
  else directory ++ "/" ++ path

/-! ## Order -/

/-- What decides the order of paths, part by part: the root comes first, then the directory where a
path starts, then the one above, then names. -/
inductive Part where
  | root
  | here
  | above
  | name (text : String)
  deriving DecidableEq, Repr

/-- The parts of a path. Two paths with the same parts are the same path. -/
def parts (path : String) : List Part :=
  let inner := (names path).map fun n => if n = ".." then Part.above else .name n
  if isAbsolute path then .root :: inner
  else if path == "." || Text.startsWith path "./" then .here :: inner
  else inner

/-- The place of a part among the kinds of parts. -/
def Part.rank : Part → Nat
  | .root => 0
  | .here => 1
  | .above => 2
  | .name _ => 3

/-- The order of parts. -/
def Part.compare : Part → Part → Ordering
  | .name a, .name b => if a < b then .lt else if a = b then .eq else .gt
  | a, b => Ord.compare a.rank b.rank

/-- The order of lists of parts, first difference first. -/
def compareParts : List Part → List Part → Ordering
  | [], [] => .eq
  | [], _ :: _ => .lt
  | _ :: _, [] => .gt
  | a :: as, b :: bs =>
    match a.compare b with
    | .eq => compareParts as bs
    | order => order

/-- `a` does not come after `b`. -/
def le (a b : String) : Bool := compareParts (parts a) (parts b) != .gt

/-- Without the paths that stand right after the same path. -/
def dropRepeats : List String → List String
  | a :: b :: rest =>
    if parts a = parts b then dropRepeats (a :: rest) else a :: dropRepeats (b :: rest)
  | short => short
termination_by paths => paths.length

/-- The paths in order, each once; of several spellings of one path the first given stays. -/
def sorted (paths : List String) : List String := dropRepeats (paths.mergeSort le)

end TypeLint.Path
