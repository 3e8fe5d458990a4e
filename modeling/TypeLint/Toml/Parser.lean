import TypeLint.Toml.Scalar

/-!
# TOML documents

A document is read line by line: headers open tables, and every other line gives a key of the open
table a value. `parse?` answers the entries of the whole document, or nothing when the text breaks a
rule of the format anywhere.

A document may not nest without bound: `maxDepth` limits how deep arrays and tables in braces stand in
one another, and also how many parts one key has. The two are counted apart, and each value and each
key is counted by itself.
-/

namespace TypeLint.Toml

/-- How deep values may stand in one another, and how many parts a key may have. -/
def maxDepth : Nat := 79

/-- What follows a comment, which runs to the end of its line. -/
def skipComment (cs : List Char) : List Char :=
  match cs with
  | '#' :: rest => rest.dropWhile isPlain
  | cs => cs

/-- What follows blanks, comments and line ends. Each step takes at least one character. -/
def skipLines : (fuel : Nat) → List Char → Option (List Char)
  | 0, _ => none
  | fuel + 1, cs =>
    match skipBlanks cs with
    | '#' :: rest => (newline? (skipComment ('#' :: rest))).bind (skipLines fuel)
    | cs =>
      match newline? cs with
      | some rest => skipLines fuel rest
      | none => some cs

/-- A character of a key without quotes. -/
def isKeyChar (c : Char) : Bool :=
  Text.isDigit c || Text.isLower c || Text.isUpper c || c = '_' || c = '-'

/-- One part of a key. -/
def keyPart? : List Char → Option (String × List Char)
  | '"' :: rest => (basicString? (rest.length + 1) rest).map fun (t, rest) => (String.ofList t, rest)
  | '\'' :: rest => (literalString? rest).map fun (t, rest) => (String.ofList t, rest)
  | cs =>
    let name := cs.takeWhile isKeyChar
    if name.isEmpty then none else some (String.ofList name, cs.dropWhile isKeyChar)

/-- Parts of a key with points between them, and what follows them; blanks may stand around each part.
Each step takes at least one character. -/
def keyParts? : (fuel : Nat) → List Char → Option (List String × List Char)
  | 0, _ => none
  | fuel + 1, cs => do
    let (part, rest) ← keyPart? (skipBlanks cs)
    match skipBlanks rest with
    | '.' :: rest =>
      let (parts, rest) ← keyParts? fuel rest
      return (part :: parts, rest)
    | rest => return ([part], rest)

/-- The parts of a key and what follows it. -/
def key? (cs : List Char) : Option (List String × List Char) := do
  let (parts, rest) ← keyParts? (cs.length + 1) cs
  if parts.length ≤ maxDepth then return (parts, rest) else none

/-- The path and the last part of a key. -/
def splitKey? (parts : List String) : Option (List String × String) :=
  parts.getLast?.map fun last => (parts.dropLast, last)

mutual

/-- A value and what follows it. `room` is how many more arrays and tables may open in one another.
Each step takes at least one character. -/
def value? : (fuel room : Nat) → List Char → Option (Value × List Char)
  | 0, _, _ => none
  | fuel + 1, room, cs =>
    match cs, room with
    | '[' :: _, 0 => none
    | '{' :: _, 0 => none
    | '[' :: rest, room + 1 =>
      (items? fuel room rest).map fun (items, rest) => (.array items, rest)
    | '{' :: rest, room + 1 =>
      match skipBlanks rest with
      | '}' :: rest => some (.table .inline [], rest)
      | rest => (inlineEntries? fuel room [] rest).map fun (es, rest) => (.table .inline es, rest)
    | '"' :: _, _ => string? cs
    | '\'' :: _, _ => string? cs
    | cs, _ => scalar? cs

/-- The items of an array up to its closing bracket. -/
def items? : (fuel room : Nat) → List Char → Option (List Value × List Char)
  | 0, _, _ => none
  | fuel + 1, room, cs => do
    match ← skipLines (fuel + 1) cs with
    | ']' :: rest => return ([], rest)
    | cs =>
      let (item, rest) ← value? fuel room cs
      match ← skipLines (fuel + 1) rest with
      | ',' :: rest =>
        let (items, rest) ← items? fuel room rest
        return (item :: items, rest)
      | ']' :: rest => return ([item], rest)
      | _ => none

/-- The entries of a table in braces, at least one, up to its closing brace; `entries` are those read
before. -/
def inlineEntries? : (fuel room : Nat) → Entries → List Char → Option (Entries × List Char)
  | 0, _, _, _ => none
  | fuel + 1, room, entries, cs => do
    let (path, key, value, rest) ← entry? fuel room cs
    let entries ← entries.insert? key value path
    match skipBlanks rest with
    | ',' :: rest => inlineEntries? fuel room entries rest
    | '}' :: rest => return (entries, rest)
    | _ => none

/-- A key, its value and what follows them. -/
def entry? : (fuel room : Nat) → List Char → Option (List String × String × Value × List Char)
  | 0, _, _ => none
  | fuel + 1, room, cs => do
    let (parts, rest) ← key? cs
    let (path, key) ← splitKey? parts
    let (value, rest) ← value? fuel room (skipBlanks (← expect? '=' rest))
    return (path, key, value, rest)

end

/-- What follows the end of a line, after blanks and a comment. -/
def lineEnd? (cs : List Char) : Option (List Char) :=
  match skipComment (skipBlanks cs) with
  | [] => some []
  | rest => newline? rest

/-- The key between the brackets of a header, and what follows its line. -/
def header? (closing : List Char) (cs : List Char) : Option (List String × List Char) := do
  let (parts, rest) ← key? cs
  if closing.isPrefixOf rest then return (parts, ← lineEnd? (rest.drop closing.length)) else none

/-- The lines of a document. `table` is the path of the open table and `entries` what the document
says so far. Each step takes at least one character. -/
def lines? : (fuel : Nat) → (table : List String) → Entries → List Char → Option Entries
  | 0, _, _, _ => none
  | fuel + 1, table, entries, cs =>
    match skipBlanks cs with
    | [] => some entries
    | '#' :: rest => (lineEnd? ('#' :: rest)).bind (lines? fuel table entries)
    | '[' :: '[' :: rest => do
      let (parts, rest) ← header? [']', ']'] rest
      let (path, key) ← splitKey? parts
      lines? fuel parts (← entries.openElement? path key) rest
    | '[' :: rest => do
      let (parts, rest) ← header? [']'] rest
      let (path, key) ← splitKey? parts
      lines? fuel parts (← entries.openTable? path key) rest
    | cs =>
      match newline? cs with
      | some rest => lines? fuel table entries rest
      | none => do
        let (path, key, value, rest) ← entry? (2 * cs.length + 2) maxDepth cs
        let rest ← lineEnd? rest
        lines? fuel table (← entries.modifyAt? (Entries.insert? key value path) table) rest

/-- The entries of a document. A byte order mark at its front does not count. -/
def parse? (text : String) : Option Entries :=
  let cs := match text.toList with
    | '\ufeff' :: rest => rest
    | cs => cs
  lines? (cs.length + 1) [] [] cs

end TypeLint.Toml
