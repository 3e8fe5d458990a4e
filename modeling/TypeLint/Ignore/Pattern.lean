import TypeLint.Text.Chars

/-!
# Patterns of ignore files

These patterns match the bytes of a path. `?` stands for one byte and `*` for any number of them, but
never for `/`; `[…]` for one byte of a set; `{a,b}` for one of several patterns; and `**` between
slashes for any number of directories. A pattern is first taken apart into lexemes and then put
together from left to right, since what `**` means depends on its neighbours.
-/

namespace TypeLint.Ignore

/-- Why a text is no pattern. -/
inductive Flaw where
  | danglingEscape
  | invalidRange
  | unopenedBranches
  | unclosedBranches
  deriving DecidableEq, Repr

/-! ## Lexemes -/

/-- What a pattern is written with. -/
inductive Lexeme where
  | any
  | star
  | oneOf (negated : Bool) (ranges : List (Char × Char))
  | opening
  | closing
  | comma
  | char (c : Char)
  | escaped (c : Char)
  deriving DecidableEq, Repr

/-- The last character of a lexeme. -/
def Lexeme.last : Lexeme → Char
  | .any => '?'
  | .star => '*'
  | .oneOf _ _ => ']'
  | .opening => '\x7b'
  | .closing => '\x7d'
  | .comma => ','
  | .char c => c
  | .escaped c => c

/-- How the reading of a set ends: with its ranges and the number of characters it takes, at the end
of the text, or at a range whose ends are the wrong way round. -/
inductive SetEnd where
  | closed (ranges : List (Char × Char)) (count : Nat)
  | unclosed
  | badRange
  deriving DecidableEq, Repr

/-- Reads the ranges of a set. `ranges` are those before, the last one first; `first` says that
nothing was read yet, and `open_` that a `-` waits for the end of its range. -/
def readSet (ranges : List (Char × Char)) (first open_ : Bool) (count : Nat) :
    List Char → SetEnd
  | [] => .unclosed
  | c :: rest =>
    if c = ']' ∧ !first then
      .closed (if open_ then ('-', '-') :: ranges else ranges).reverse (count + 1)
    else if c = '-' ∧ !first ∧ !open_ then readSet ranges false true (count + 1) rest
    else
      match open_, ranges with
      | true, (a, _) :: before =>
        if c < a then .badRange else readSet ((a, c) :: before) false false (count + 1) rest
      | _, _ => readSet ((c, c) :: ranges) false false (count + 1) rest

/-- The lexemes of a text. A set that is never closed is no set, and neither is any after it. -/
def lexemes (literalBrackets : Bool) (cs : List Char) : Except Flaw (List Lexeme) :=
  match cs with
  | [] => .ok []
  | ['\\'] => .error .danglingEscape
  | '\\' :: c :: rest => do return .escaped c :: (← lexemes literalBrackets rest)
  | c :: rest =>
    if c = '[' ∧ !literalBrackets then
      let negated := rest.head? = some '!' || rest.head? = some '^'
      let body := if negated then rest.tail else rest
      match readSet [] true false 0 body with
      | .closed ranges count => do
        return .oneOf negated ranges :: (← lexemes literalBrackets (body.drop count))
      | .badRange => .error .invalidRange
      | .unclosed => do return .char '[' :: (← lexemes true rest)
    else do
      let lexeme : Lexeme :=
        if c = '?' then .any
        else if c = '*' then .star
        else if c = '\x7b' then .opening
        else if c = '\x7d' then .closing
        else if c = ',' then .comma
        else .char c
      return lexeme :: (← lexemes literalBrackets rest)
termination_by cs.length
decreasing_by
  all_goals simp_wf
  all_goals grind

/-! ## Pieces -/

/-- One step of a pattern. -/
inductive Piece where
  | literal (c : Char)
  /-- one byte but `/` -/
  | any
  /-- any bytes but `/` -/
  | many
  /-- directories at the front, with the `/` after each -/
  | leading
  /-- `/` and all that is left -/
  | trailing
  /-- `/`, with or without directories between two of them -/
  | between
  /-- one byte of a set, or not of it -/
  | oneOf (negated : Bool) (ranges : List (Char × Char))
  /-- one of several patterns -/
  | branches (alternatives : List (List Piece))

/-- A group of alternatives being read: those before the open one, and the pieces of the open one,
all last one first. -/
structure Group where
  before : List (List Piece) := []
  pieces : List Piece := []

/-- Adds a piece to the open alternative. -/
def Group.push (g : Group) (p : Piece) : Group := { g with pieces := p :: g.pieces }

/-- Puts lexemes together. `previous` is the character before them, `group` the group being read and
`outer` the groups around it. -/
def assemble (previous : Option Char) (group : Group) (outer : List Group) :
    List Lexeme → Except Flaw (List Piece)
  | [] => if outer.isEmpty then .ok group.pieces.reverse else .error .unclosedBranches
  | .star :: .star :: rest =>
    let plain := (group.push .many).push .many
    if group.pieces.isEmpty then
      -- at the front it stands for directories only before a slash or alone
      match rest with
      | [] => assemble none (group.push .leading) outer []
      | .char '/' :: rest => assemble (some '/') (group.push .leading) outer rest
      | rest => assemble (some '*') plain outer rest
    else if previous = some '/'
        ∨ (!outer.isEmpty ∧ (previous = some ',' ∨ previous = some '\x7b')) then
      -- the slash before it is a part of the piece it makes
      let replaceLast (piece : Piece) : Group :=
        match group.pieces with
        | .leading :: _ => group
        | .trailing :: _ => group
        | _ :: before => { group with pieces := piece :: before }
        | [] => group.push piece
      match rest with
      | [] => assemble none (replaceLast .trailing) outer []
      | .char '/' :: rest => assemble (some '/') (replaceLast .between) outer rest
      | next :: rest =>
        if !outer.isEmpty ∧ (next = .comma ∨ next = .closing) then
          assemble (some '*') (replaceLast .trailing) outer (next :: rest)
        else assemble (some '*') plain outer (next :: rest)
    else assemble (some '*') plain outer rest
  | .opening :: rest => assemble (some '\x7b') {} (group :: outer) rest
  | .closing :: rest =>
    match outer with
    | parent :: outer =>
      let alternatives := (group.pieces.reverse :: group.before).reverse
      assemble (some '\x7d') (parent.push (.branches alternatives)) outer rest
    | [] => .error .unopenedBranches
  | .comma :: rest =>
    if outer.isEmpty then assemble (some ',') (group.push (.literal ',')) outer rest
    else assemble (some ',') { before := group.pieces.reverse :: group.before } outer rest
  | lexeme :: rest =>
    let piece : Piece :=
      match lexeme with
      | .any => .any
      | .star => .many
      | .oneOf negated ranges => .oneOf negated ranges
      | lexeme => .literal lexeme.last
    assemble (some lexeme.last) (group.push piece) outer rest
termination_by lexemes => lexemes.length

/-- Reads a pattern. -/
def parse (text : List Char) : Except Flaw (List Piece) := do
  assemble none {} [] (← lexemes false text)

/-! ## Matching -/

/-- A path as bytes. -/
abbrev Bytes := List UInt8

/-- The bytes of a character. -/
def charBytes (c : Char) : Bytes := c.toString.toUTF8.toList

/-- The byte that divides directories. -/
def slash : UInt8 := 47

/-- The ranges of bytes that a range of characters stands for: the range runs from the last byte of
the one end to the first byte of the other, and every other byte of the two stands for itself. -/
def byteRanges (range : Char × Char) : List (UInt8 × UInt8) :=
  let low := charBytes range.1
  let high := charBytes range.2
  let alone (bytes : Bytes) := bytes.map fun b => (b, b)
  if range.1 = range.2 then alone low
  else
    match low.getLast?, high with
    | some a, b :: rest => alone low.dropLast ++ (a, b) :: alone rest
    | _, _ => []

/-- The byte lies in the set. -/
def inSet (ranges : List (Char × Char)) (b : UInt8) : Bool :=
  (ranges.flatMap byteRanges).any fun (low, high) => low ≤ b && b ≤ high

/-- What is left after each `/`. -/
def afterSlashes : Bytes → List Bytes
  | [] => []
  | b :: rest => if b = slash then rest :: afterSlashes rest else afterSlashes rest

/-- What is left after any number of bytes that satisfy `p`. -/
def dropAny (p : UInt8 → Bool) : Bytes → List Bytes
  | [] => [[]]
  | b :: rest => (b :: rest) :: if p b then dropAny p rest else []

mutual

/-- The piece can only match nothing, because it has no alternative that could match more. -/
def Piece.isVoid : Piece → Bool
  | .branches alternatives => allVoid alternatives
  | _ => false

/-- Every piece can only match nothing. -/
def isVoid : List Piece → Bool
  | [] => true
  | p :: ps => p.isVoid && isVoid ps

/-- Every alternative can only match nothing. -/
def allVoid : List (List Piece) → Bool
  | [] => true
  | ps :: rest => isVoid ps && allVoid rest

end

mutual

/-- What may be left of a path when its front matches the piece. -/
def Piece.rests : Piece → Bytes → List Bytes
  | .literal c, path => if (charBytes c).isPrefixOf path then [path.drop (charBytes c).length] else []
  | .any, path =>
    match path with
    | b :: rest => if b = slash then [] else [rest]
    | [] => []
  | .many, path => dropAny (· != slash) path
  | .leading, path => path :: afterSlashes path
  | .trailing, path =>
    match path with
    | b :: rest => if b = slash then dropAny (fun _ => true) rest else []
    | [] => []
  | .between, path =>
    match path with
    | b :: rest => if b = slash then rest :: afterSlashes rest else []
    | [] => []
  | .oneOf negated ranges, path =>
    match path with
    | b :: rest => if negated != inSet ranges b then [rest] else []
    | [] => []
  | .branches alternatives, path =>
    if allVoid alternatives then [path] else restsOfAny alternatives path

/-- What may be left of a path when its front matches the pieces, one after another. -/
def restsOfAll : List Piece → Bytes → List Bytes
  | [], path => [path]
  | p :: ps, path => ((p.rests path).eraseDups.flatMap (restsOfAll ps)).eraseDups

/-- What may be left of a path when its front matches one of the alternatives; those that can match
nothing only are left out. -/
def restsOfAny : List (List Piece) → Bytes → List Bytes
  | [], _ => []
  | ps :: rest, path => (if isVoid ps then [] else restsOfAll ps path) ++ restsOfAny rest path

end

/-- The pieces match the whole path. A pattern of `**` alone matches everything. -/
def accepts (pieces : List Piece) (path : Bytes) : Bool :=
  match pieces with
  | [.leading] => true
  | pieces => (restsOfAll pieces path).any (·.isEmpty)

end TypeLint.Ignore
