import ClassAtlas.FileSystem
import ClassAtlas.Location

/-!
# Single class files

One class file as a location of its own. It is only opened for a class with
the simple name that its file name says.
-/

namespace ClassAtlas

structure SingleFile where
  path : Path
deriving DecidableEq

namespace SingleFile

def name (f : SingleFile) : String :=
  f.path.text

def source [Formats] (f : SingleFile) (fs : FileSystem) (options : LoadOptions) :
    Except Failure Source :=
  match fs.read? f.path with
  | none => .error (.unreadable f.path)
  | some bytes => Source.ofClassFile f.name f.path options bytes

def lookup [Formats] (f : SingleFile) (fs : FileSystem) (c : ClassName) (options : LoadOptions) :
    Except Failure (Option Source) :=
  if c.isModuleInfo || f.path.fileStem? != some c.simple then .ok none
  else do
    let source ← f.source fs options
    return if source.name = c then some source else none

def enumerate [Formats] (f : SingleFile) (fs : FileSystem) (options : LoadOptions) :
    Except Failure (List Source) := do
  return [← f.source fs options]

def location [Formats] (f : SingleFile) (fs : FileSystem) : Location where
  name := f.name
  size := 1
  lookup _ c options := f.lookup fs c options
  enumerate _ options := f.enumerate fs options

end SingleFile

end ClassAtlas
