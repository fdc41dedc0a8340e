import ClassAtlas.Language
import ClassAtlas.Location.Directory
import ClassAtlas.Location.Jar
import ClassAtlas.Location.Memory
import ClassAtlas.Location.SingleFile

/-!
# Places

The kinds of locations there are, and which of them a path stands for.
-/

namespace ClassAtlas

inductive Place where
  | memory (name : String) (store : MemoryStore)
  | directory (d : Directory)
  | jar (j : Jar)
  | singleFile (f : SingleFile)

namespace Place

def name : Place → String
  | memory name _ => name
  | directory d => d.name
  | jar j => j.name
  | singleFile f => f.name

def location [Formats] (fs : FileSystem) : Place → Location
  | memory name store => store.location name
  | directory d => d.location fs
  | jar j => j.location fs
  | singleFile f => f.location fs

/-- A folder, a `.jar` or a `.class` file. Module descriptors are offered if the language has
modules. -/
def detect? (fs : FileSystem) (language : Language) (path : Path) : Option Place :=
  match fs.find? path with
  | none => none
  | some (.folder _) => some (.directory ⟨path, language.usesModules⟩)
  | some (.file _) =>
    match path.extension? with
    | some "jar" => some (.jar ⟨path, language.usesModules⟩)
    | some "class" => some (.singleFile ⟨path⟩)
    | _ => none

end Place

end ClassAtlas
