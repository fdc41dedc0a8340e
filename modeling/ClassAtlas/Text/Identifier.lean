import ClassAtlas.Text.Alphabetic
import ClassAtlas.Text.Numeric
import ClassAtlas.Text.Segments

/-!
# Dotted identifiers

Module and package names are identifiers with dots between them. An identifier
opens with a letter, an underscore or a dollar sign and goes on with letters,
numbers, underscores and dollar signs.
-/

namespace ClassAtlas.Text

def isIdentifierStart (c : Char) : Bool :=
  c == '_' || c == '$' || isAlphabetic c

def isIdentifierPart (c : Char) : Bool :=
  c == '_' || c == '$' || isAlphabetic c || isNumeric c

def isIdentifier : List Char → Bool
  | [] => false
  | c :: cs => isIdentifierStart c && cs.all isIdentifierPart

/-- Whether every dotted segment is an identifier; the empty name has an empty segment. -/
def isDottedIdentifier (name : String) : Bool :=
  (split '.' name.toList).all isIdentifier

end ClassAtlas.Text
