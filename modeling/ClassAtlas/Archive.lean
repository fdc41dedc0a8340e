import ClassAtlas.Archive.Content

/-!
# Archives

The entries of an archive with their contents, by name.
-/

namespace ClassAtlas

/-- The entries of an archive by name, each name once. -/
structure Archive where
  entries : List (String × Except EntryFault Bytes)

namespace Archive

/-- Puts an entry in the place of the one with its name, or at the end. -/
def insert {α : Type} (name : String) (entry : α) : List (String × α) → List (String × α)
  | [] => [(name, entry)]
  | (n, e) :: rest => if n = name then (name, entry) :: rest else (n, e) :: insert name entry rest

def ofBytes? (bytes : Bytes) : Option Archive :=
  let image := bytes.toArray
  (directory? image).map fun d =>
    ⟨d.headers.foldl (fun entries h => insert h.name (content image d.before h) entries) []⟩

def entry? (a : Archive) (name : String) : Option (Except EntryFault Bytes) :=
  a.entries.lookup name

end Archive

end ClassAtlas
