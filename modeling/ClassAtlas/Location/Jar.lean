import ClassAtlas.FileSystem
import ClassAtlas.Location

/-!
# Archives of class files

The classes in an archive, by the names of its entries.
-/

namespace ClassAtlas

structure Jar where
  path : Path
  /-- Whether the module descriptor at the root is offered, too. -/
  modules : Bool
deriving DecidableEq

namespace Jar

def name (j : Jar) : String :=
  j.path.text

/-- How an entry is called outside of the archive. -/
def entryPath (j : Jar) (entry : String) : Path :=
  ⟨"jar:" ++ j.path.text ++ "!/" ++ entry⟩

/-- Entries for one release of the language only. -/
def isVersioned (entry : String) : Bool :=
  "META-INF/versions/".toList.isPrefixOf entry.toList

-- ---------------------------------------------------------------------------
-- In an archive
-- ---------------------------------------------------------------------------

def failure (j : Jar) : EntryFault → Failure
  | .refused => .badArchive j.path
  | .damaged => .unreadable j.path

def entryBytes (j : Jar) (a : Archive) (entry : String) : Except Failure (Option Bytes) :=
  match a.entry? entry with
  | none => .ok none
  | some (.ok bytes) => .ok (some bytes)
  | some (.error fault) => .error (j.failure fault)

def moduleSource (j : Jar) (a : Archive) : Except Failure (Option Source) :=
  if j.modules then do
    match ← j.entryBytes a moduleFilePath.text with
    | none => return none
    | some bytes =>
      let source ← Source.ofModuleFile j.name (j.entryPath moduleFilePath.text) bytes
      return some source
  else .ok none

def classSource [Formats] (j : Jar) (a : Archive) (options : LoadOptions) (entry : String) :
    Except Failure (Option Source) := do
  match ← j.entryBytes a entry with
  | none => return none
  | some bytes =>
    let source ← Source.ofClassFile j.name (j.entryPath entry) options bytes
    return some source

def lookupIn [Formats] (j : Jar) (a : Archive) (c : ClassName) (options : LoadOptions) :
    Except Failure (Option Source) := do
  if c.isModuleInfo then
    let source ← j.moduleSource a
    return source.filter (·.name == c)
  else
    match ← j.classSource a options c.file.text with
    | none => return none
    | some source =>
      let source ← source.expect c
      return some source

/-- Enumeration opens every entry, so it fails if one of them is refused. -/
def isRefused (a : Archive) : Bool :=
  a.entries.any fun (_, content) =>
    match content with
    | .error .refused => true
    | _ => false

/-- The entries that are classes, by name. -/
def classEntries (a : Archive) : List String :=
  ((a.entries.map (·.1)).filter fun entry => isClassEntry entry && !isVersioned entry).mergeSort
    fun a b => decide (a ≤ b)

def enumerateIn [Formats] (j : Jar) (a : Archive) (options : LoadOptions) :
    Except Failure (List Source) := do
  if isRefused a then .error (.badArchive j.path)
  let module ← j.moduleSource a
  let classes ← (classEntries a).mapM (j.classSource a options)
  return module.toList ++ classes.filterMap id

-- ---------------------------------------------------------------------------
-- In a file system
-- ---------------------------------------------------------------------------

/-- Opens the archive. A folder can be opened, but is no archive. -/
def archive [Formats] (j : Jar) (fs : FileSystem) : Except Failure Archive :=
  match fs.find? j.path with
  | none => .error (.unreadable j.path)
  | some (.folder _) => .error (.badArchive j.path)
  | some (.file bytes) =>
    match Formats.archive bytes with
    | some a => .ok a
    | none => .error (.badArchive j.path)

def lookup [Formats] (j : Jar) (fs : FileSystem) (c : ClassName) (options : LoadOptions) :
    Except Failure (Option Source) := do
  j.lookupIn (← j.archive fs) c options

def enumerate [Formats] (j : Jar) (fs : FileSystem) (options : LoadOptions) :
    Except Failure (List Source) := do
  j.enumerateIn (← j.archive fs) options

def size [Formats] (j : Jar) (fs : FileSystem) : Nat :=
  match j.archive fs with
  | .ok a => a.entries.length
  | .error _ => 0

def location [Formats] (j : Jar) (fs : FileSystem) : Location where
  name := j.name
  size := j.size fs
  lookup _ c options := j.lookup fs c options
  enumerate _ options := j.enumerate fs options

end Jar

end ClassAtlas
