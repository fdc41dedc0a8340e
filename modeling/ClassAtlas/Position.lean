/-!
# Source positions
-/

namespace ClassAtlas

/-- The span of a declaration in its source text. -/
structure Position where
  firstLine : Int
  firstColumn : Int
  lastLine : Int
  lastColumn : Int
deriving DecidableEq, Inhabited

namespace Position

/-- The last column of a span that has no columns. -/
def noColumn : Int := -1

def hasColumns (p : Position) : Bool :=
  p.lastColumn != noColumn

/-- One line, up to the start of the next and without columns. -/
def ofLine (line : Int) : Position :=
  ⟨line, 0, line + 1, noColumn⟩

def text (p : Position) : String :=
  if p.hasColumns then
    toString p.firstLine ++ ":" ++ toString p.firstColumn ++ "-" ++
      toString p.lastLine ++ ":" ++ toString p.lastColumn
  else toString p.firstLine ++ "-" ++ toString p.lastLine

end Position

end ClassAtlas
