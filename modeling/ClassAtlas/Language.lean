/-!
# The source language
-/

namespace ClassAtlas

/-- The language that the analysed classes were written in. -/
structure Language where
  version : Nat
deriving DecidableEq

namespace Language

def name : String := "Java"

/-- The version assumed where none is given. -/
def standard : Language := ⟨8⟩

instance : Inhabited Language := ⟨standard⟩

/-- Whether programs of this version come as modules. -/
def usesModules (l : Language) : Bool :=
  l.version > 8

def text (l : Language) : String :=
  name ++ " " ++ toString l.version

end Language

end ClassAtlas
