import ClassAtlas.Location

/-!
# Sources in memory

Sources by the names of their classes, in the order in which the names came
up first.
-/

namespace ClassAtlas

structure MemoryStore where
  sources : List Source

namespace MemoryStore

def empty : MemoryStore := ⟨[]⟩

/-- Puts a source in the place of the one with its name, or at the end. -/
def insertInto (s : Source) : List Source → List Source
  | [] => [s]
  | t :: ts => if t.name = s.name then s :: ts else t :: insertInto s ts

def insert (m : MemoryStore) (s : Source) : MemoryStore :=
  ⟨insertInto s m.sources⟩

def ofList (sources : List Source) : MemoryStore :=
  sources.foldl insert empty

def find? (m : MemoryStore) (name : ClassName) : Option Source :=
  m.sources.find? (·.name == name)

def size (m : MemoryStore) : Nat :=
  m.sources.length

def location (m : MemoryStore) (name : String) : Location where
  name := name
  size := m.size
  lookup _ name _ := .ok (m.find? name)
  enumerate _ _ := .ok m.sources

end MemoryStore

end ClassAtlas
