import TypeLint.Tree.Walk
import TypeLint.Text.Chars

/-!
# Type information

A type is known by its printed text. Whoever can say the type of a node is a `TypeOracle`; for a
function the answer is its return type, and no answer means that the type cannot be told.
-/

namespace TypeLint

/-- A type in source form. -/
structure TypeInfo where
  text : String
  deriving DecidableEq, Repr

/-- Says the type of a node, if it can. -/
abbrev TypeOracle := ∀ {t : SyntaxTree}, Node t → Option TypeInfo

namespace TypeInfo

/-- A type's text without white space and without the semicolons that end it. -/
def normalize (text : String) : List Char :=
  (Text.dropBack (· = ';') (Text.trim text.toList)).filter (!Text.isBlank ·)

/-- The type is the one an annotation spells, white space and final semicolons apart. -/
def agreesWith (info : TypeInfo) (spelled : String) : Bool :=
  normalize info.text == normalize spelled

end TypeInfo

end TypeLint
