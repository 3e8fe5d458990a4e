/-!
# TOML values and tables

A document is a table that is built entry by entry. How a table came to be decides what may still be
added to it: a table has one header, a dotted key only adds to tables that dotted keys made, and a
table in braces is complete. Every operation answers `none` when the document would define something
twice.
-/

namespace TypeLint.Toml

/-- How a table came to be. -/
inductive Origin where
  /-- by its own header -/
  | header
  /-- by the header of a table below it -/
  | implied
  /-- by a dotted key -/
  | dotted
  /-- in braces -/
  | inline
  deriving DecidableEq, Repr

/-- A value. The configuration has no use for fractions and dates, so only their kind is kept. -/
inductive Value where
  | string (s : String)
  | integer (i : Int)
  | float
  | boolean (b : Bool)
  | dateTime
  | array (items : List Value)
  | table (origin : Origin) (entries : List (String × Value))
  | tables (elements : List (List (String × Value)))
  deriving Inhabited

/-- The entries of a table, in the order of the document. -/
abbrev Entries := List (String × Value)

namespace Entries

/-- The value of a key. -/
def get? (entries : Entries) (key : String) : Option Value := entries.lookup key

/-- Gives a key a value, in its place if it has one already. -/
def set (entries : Entries) (key : String) (value : Value) : Entries :=
  match entries with
  | [] => [(key, value)]
  | (k, v) :: rest => if k = key then (key, value) :: rest else (k, v) :: set rest key value

/-- Adds a key that is not there yet. -/
def add? (entries : Entries) (key : String) (value : Value) : Option Entries :=
  if (entries.get? key).isSome then none else some (entries ++ [(key, value)])

/-- Changes the last element of an array of tables. -/
def modifyLast? (f : Entries → Option Entries) (elements : List Entries) : Option (List Entries) :=
  match elements.getLast? with
  | some last => (f last).map fun new => elements.dropLast ++ [new]
  | none => none

/-- Adds a value under a dotted key: `path` leads to the table, `key` is the last part. -/
def insert? (key : String) (value : Value) : (path : List String) → Entries → Option Entries
  | [], entries => entries.add? key value
  | step :: rest, entries =>
    match entries.get? step with
    | none => (insert? key value rest []).map fun sub => entries ++ [(step, .table .dotted sub)]
    | some (.table origin sub) =>
      if origin = .dotted ∨ (origin = .implied ∧ rest ≠ []) then
        (insert? key value rest sub).map fun sub => entries.set step (.table origin sub)
      else none
    | some (.tables elements) =>
      if rest = [] then none
      else (modifyLast? (insert? key value rest) elements).map fun es => entries.set step (.tables es)
    | some _ => none

/-- Changes the table that a header's path leads to; an array of tables stands for its last
element, and tables that are missing are implied. -/
def modifyAt? (f : Entries → Option Entries) : (path : List String) → Entries → Option Entries
  | [], entries => f entries
  | step :: rest, entries =>
    match entries.get? step with
    | none => (modifyAt? f rest []).map fun sub => entries ++ [(step, .table .implied sub)]
    | some (.table origin sub) =>
      if origin = .inline then none
      else (modifyAt? f rest sub).map fun sub => entries.set step (.table origin sub)
    | some (.tables elements) =>
      (modifyLast? (modifyAt? f rest) elements).map fun es => entries.set step (.tables es)
    | some _ => none

/-- Opens the table `key` in the table that `path` leads to. -/
def openTable? (path : List String) (key : String) (entries : Entries) : Option Entries :=
  entries.modifyAt? (fun parent =>
    match parent.get? key with
    | none => some (parent ++ [(key, .table .header [])])
    | some (.table .implied sub) => some (parent.set key (.table .header sub))
    | some _ => none) path

/-- Opens a new element of the array of tables `key` in the table that `path` leads to. -/
def openElement? (path : List String) (key : String) (entries : Entries) : Option Entries :=
  entries.modifyAt? (fun parent =>
    match parent.get? key with
    | none => some (parent ++ [(key, .tables [[]])])
    | some (.tables elements) => some (parent.set key (.tables (elements ++ [[]])))
    | some _ => none) path

end Entries

end TypeLint.Toml
