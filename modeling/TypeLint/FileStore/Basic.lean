import TypeLint.Path

/-!
# A store of files

A tree of directories and files, held as a map from places to what stands there. A place is the list
of names that lead to it from the root, which is also the directory that relative paths start from.
Paths are followed name by name, so `a/../b` needs a directory `a`, and a path that climbs above the
root or starts with `/` leads nowhere.

What a read sees after a write is `read_write`.

Commands and engines read files, write them and list directories. `addFile` is for laying out a store
that they start from, `erase` for taking a file away between two runs, and `filePaths` for looking at
what a run has left; they do none of this themselves.
-/

namespace TypeLint

/-- The names that lead from the root to a file or directory. -/
abbrev Place := List String

/-- What stands at a place. -/
inductive StoredItem where
  | file (content : ByteArray)
  | directory

/-- Why a file cannot be read or written. -/
inductive IoError where
  | notFound
  | permissionDenied
  | notDirectory
  | isDirectory
  | notText
  deriving DecidableEq, Repr

/-- The error in words. -/
def IoError.message : IoError → String
  | .notFound => "No such file or directory (os error 2)"
  | .permissionDenied => "Permission denied (os error 13)"
  | .notDirectory => "Not a directory (os error 20)"
  | .isDirectory => "Is a directory (os error 21)"
  | .notText => "stream did not contain valid UTF-8"

/-- Files and directories by place; the root directory is always there. In a place of `sealed` no
file can be written. -/
structure FileStore where
  items : List (Place × StoredItem) := []
  sealed : List Place := []

namespace FileStore

/-- What stands at a place. -/
def item? (store : FileStore) (place : Place) : Option StoredItem :=
  if place = [] then some .directory else store.items.lookup place

/-- Puts something at a place, whatever stood there. -/
def put (store : FileStore) (place : Place) (item : StoredItem) : FileStore :=
  { store with items := (place, item) :: store.items.filter (·.1 != place) }

/-- Takes away what stands at a place. -/
def erase (store : FileStore) (place : Place) : FileStore :=
  { store with items := store.items.filter (·.1 != place) }

/-- The steps of a path. A path that ends in `/` has to lead to a directory, which the last step `.`
demands. -/
def steps (path : String) : List String :=
  ((Text.splitAt '/' path.toList).map String.ofList).filter (· != "")
    ++ if Text.endsWith path "/" then ["."] else []

/-- Follows steps from a place. Every place that a step starts from has to be a directory; what the
last one leads to need not exist. -/
def follow (store : FileStore) : Place → List String → Except IoError Place
  | here, [] => .ok here
  | here, step :: rest =>
    match store.item? here with
    | none => .error .notFound
    | some (.file _) => .error .notDirectory
    | some .directory =>
      if step = "." then follow store here rest
      else if step = ".." then
        if here = [] then .error .notFound else follow store here.dropLast rest
      else follow store (here ++ [step]) rest

/-- The place that a path leads to; nothing need stand there. -/
def locate (store : FileStore) (path : String) : Except IoError Place :=
  if path = "" ∨ Path.isAbsolute path then .error .notFound else store.follow [] (steps path)

/-- What a path leads to. -/
def lookup (store : FileStore) (path : String) : Option StoredItem :=
  match store.locate path with
  | .ok place => store.item? place
  | .error _ => none

/-- The path leads to a file. -/
def isFile (store : FileStore) (path : String) : Bool :=
  match store.lookup path with
  | some (.file _) => true
  | _ => false

/-- The path leads to a directory. -/
def isDirectory (store : FileStore) (path : String) : Bool :=
  match store.lookup path with
  | some .directory => true
  | _ => false

/-- The path leads to something. -/
def exists? (store : FileStore) (path : String) : Bool := (store.lookup path).isSome

/-- The text of a file. -/
def read (store : FileStore) (path : String) : Except IoError String :=
  match store.locate path with
  | .error e => .error e
  | .ok place =>
    match store.item? place with
    | none => .error .notFound
    | some .directory => .error .isDirectory
    | some (.file content) =>
      match String.fromUTF8? content with
      | some text => .ok text
      | none => .error .notText

/-- Writes a file, new or old, into a directory that is there. -/
def write (store : FileStore) (path text : String) : Except IoError FileStore :=
  match store.locate path with
  | .error e => .error e
  | .ok place =>
    match store.item? place with
    | some .directory => .error .isDirectory
    | _ =>
      if place.dropLast ∈ store.sealed then .error .permissionDenied
      else .ok (store.put place (.file text.toUTF8))

/-- The names in a directory, in order. -/
def children (store : FileStore) (place : Place) : List String :=
  (store.items.filterMap fun (p, _) =>
    match p.getLast? with
    | some name => if p.dropLast = place then some name else none
    | none => none).mergeSort fun a b => decide (a ≤ b)

/-- Puts a file at a place and directories at the places that lead to it. -/
def addFile (store : FileStore) (place : Place) (content : ByteArray) : FileStore :=
  let parents := (List.range place.length).map fun n => place.take n
  let store := parents.foldl (fun s p => if p = [] then s else s.put p .directory) store
  store.put place (.file content)

/-- The paths of all files, in order. -/
def filePaths (store : FileStore) : List String :=
  (store.items.filterMap fun (place, item) =>
    match item with
    | .file _ => some ("/".intercalate place)
    | .directory => none).mergeSort fun a b => decide (a ≤ b)

/-- The greatest number of names that lead to something. -/
def depth (store : FileStore) : Nat := store.items.foldl (fun d (p, _) => max d p.length) 0

/-! ## What a change does to the view -/

theorem lookup_filter_ne {items : List (Place × StoredItem)} {p q : Place} (h : q ≠ p) :
    (items.filter (·.1 != p)).lookup q = items.lookup q := by
  induction items with
  | nil => rfl
  | cons a rest ih =>
    obtain ⟨k, v⟩ := a
    by_cases hk : k = p
    · subst hk
      have hq : (q == k) = false := by simpa using h
      simp [List.lookup_cons, hq, ih]
    · rw [List.filter_cons_of_pos (by simpa using hk)]
      simp only [List.lookup_cons, ih]

theorem item?_put_self {store : FileStore} {p : Place} {item : StoredItem} (h : p ≠ []) :
    (store.put p item).item? p = some item := by
  simp [item?, put, h]

theorem item?_put_ne {store : FileStore} {p q : Place} {item : StoredItem} (h : q ≠ p) :
    (store.put p item).item? q = store.item? q := by
  have hq : (q == p) = false := by simpa using h
  simp only [item?, put, List.lookup_cons, hq, lookup_filter_ne h]

/-- Putting a file where a file stands, or where nothing does, changes no path that could be followed
before: only directories are followed. -/
theorem follow_put_file {store : FileStore} {p : Place} {content : ByteArray}
    (hp : store.item? p ≠ some .directory) (hne : p ≠ []) :
    ∀ (steps : List String) (here q : Place), store.follow here steps = .ok q →
      (store.put p (.file content)).follow here steps = .ok q
  | [], _, _, h => h
  | step :: rest, here, q, h => by
    rw [follow] at h ⊢
    split at h
    next => cases h
    next => cases h
    next hdir =>
      have hhere : here ≠ p := fun e => hp (e ▸ hdir)
      rw [item?_put_ne hhere, hdir]
      simp only
      split at h
      next h1 =>
        rw [if_pos h1]
        exact follow_put_file hp hne rest here q h
      next h1 =>
        rw [if_neg h1]
        split at h
        next h2 =>
          rw [if_pos h2]
          split at h
          next => cases h
          next h3 =>
            rw [if_neg h3]
            exact follow_put_file hp hne rest here.dropLast q h
        next h2 =>
          rw [if_neg h2]
          exact follow_put_file hp hne rest (here ++ [step]) q h

/-- A file that was written reads as what was written. -/
theorem read_write {store written : FileStore} {path text : String}
    (h : store.write path text = .ok written) : written.read path = .ok text := by
  unfold write at h
  split at h
  next => cases h
  next place hloc =>
    split at h
    next => cases h
    next hitem =>
      split at h
      next => cases h
      next =>
        cases h
        have hdir : store.item? place ≠ some .directory := hitem
        have hne : place ≠ [] := by
          intro e
          subst e
          exact hdir rfl
        have hloc' : (store.put place (.file text.toUTF8)).locate path = .ok place := by
          unfold locate at hloc ⊢
          split at hloc
          next => cases hloc
          next hc =>
            rw [if_neg hc]
            exact follow_put_file hdir hne _ _ _ hloc
        unfold read
        rw [hloc']
        simp only [item?_put_self hne]
        have : String.fromUTF8? text.toUTF8 = some text := by
          simp [String.fromUTF8?]
          exact ⟨text.isValidUTF8, rfl⟩
        rw [this]

end FileStore

end TypeLint
