import ClassAtlas.FileSystem
import ClassAtlas.Location

/-!
# Folders of class files

The classes under a folder, one subfolder a segment of their packages.
-/

namespace ClassAtlas

structure Directory where
  root : Path
  /-- Whether the module descriptor at the root is offered, too. -/
  modules : Bool
deriving DecidableEq

namespace Directory

def name (d : Directory) : String :=
  d.root.text

def modulePath (d : Directory) : Path :=
  d.root.join moduleFilePath

/-- Where the file of a class is looked for. -/
def classPath (d : Directory) (c : ClassName) : Path :=
  d.root.join c.file

def moduleSource (d : Directory) (fs : FileSystem) : Except Failure (Option Source) :=
  if d.modules then
    match fs.read? d.modulePath with
    | some bytes => (Source.ofModuleFile d.name d.modulePath bytes).map some
    | none => .ok none
  else .ok none

def lookup [Formats] (d : Directory) (fs : FileSystem) (c : ClassName) (options : LoadOptions) :
    Except Failure (Option Source) :=
  if c.isModuleInfo then do
    let source ← d.moduleSource fs
    return source.filter (·.name == c)
  else
    match fs.read? (d.classPath c) with
    | none => .ok none
    | some bytes => do
      let source ← Source.ofClassFile d.name (d.classPath c) options bytes
      let source ← source.expect c
      return some source

/-- The class files under a folder at `path`, in order. -/
def classFiles (path : Path) (folder : FileTree) : List (RawPath × Option Bytes) :=
  (FileSystem.walk path.raw folder).filter fun (path, _) => isClassEntry path.shown.text

/-- The class in a file under the folder, whose path may be too long to be followed. -/
def classSource [Formats] (d : Directory) (options : LoadOptions) (path : RawPath) :
    Option Bytes → Except Failure Source
  | some bytes => Source.ofClassFile d.name path.shown options bytes
  | none => .error (.unreadable path.shown)

def enumerate [Formats] (d : Directory) (fs : FileSystem) (options : LoadOptions) :
    Except Failure (List Source) :=
  match fs.find? d.root with
  | some (.folder entries) => do
    let module ← d.moduleSource fs
    let classes ← (classFiles d.root (.folder entries)).mapM fun (path, content) =>
      d.classSource options path content
    return module.toList ++ classes
  | _ => .error (.unreadable d.root)

def location [Formats] (d : Directory) (fs : FileSystem) : Location where
  name := d.name
  size := fs.root.fileCount
  lookup _ c options := d.lookup fs c options
  enumerate _ options := d.enumerate fs options

end Directory

end ClassAtlas
