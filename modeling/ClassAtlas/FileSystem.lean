import ClassAtlas.FileTree

/-!
# File systems

A file tree and the folder that relative paths start from. A path is followed
segment by segment, and wherever a segment is taken there must be a folder:
an empty segment and a dot stay in it, two dots leave it. A walk visits the
entries of a folder by their paths, as these are shown.
-/

namespace ClassAtlas

structure FileSystem where
  root : FileTree
  /-- The names that lead to the working folder. -/
  working : List FileName

namespace FileSystem

-- ---------------------------------------------------------------------------
-- Following paths
-- ---------------------------------------------------------------------------

/-- The names that lead to what one segment reaches from a folder. -/
def stepTo (fs : FileSystem) (names : List FileName) (segment : String) : Option (List FileName) :=
  match fs.root.at? names with
  | some (.folder _) =>
    match segment with
    | "" | "." => some names
    | ".." => some names.dropLast
    | name =>
      let next := names ++ [FileName.ofText name]
      if (fs.root.at? next).isSome then some next else none
  | _ => none

/-- The folder that a path starts from. -/
def start (fs : FileSystem) (p : Path) : List FileName :=
  if p.isAbsolute then [] else fs.working

/-- A path has fewer bytes than this. -/
def pathLimit : Nat := 4096

/-- A name has no more bytes than this. -/
def nameLimit : Nat := 255

/-- Whether a path can be followed at all: it is neither empty nor too long, and holds no zero. -/
def isProper (p : RawPath) : Bool :=
  p.bytes != [] && p.bytes.length < pathLimit && !p.bytes.contains 0

/-- The names that lead to what stands at a path. -/
def resolve? (fs : FileSystem) (p : Path) : Option (List FileName) :=
  if isProper p.raw then (Text.segments '/' p.text).foldlM fs.stepTo (fs.start p) else none

-- ---------------------------------------------------------------------------
-- Reading
-- ---------------------------------------------------------------------------

def find? (fs : FileSystem) (p : Path) : Option FileTree :=
  (fs.resolve? p).bind fs.root.at?

def contains (fs : FileSystem) (p : Path) : Bool :=
  (fs.find? p).isSome

def isFolder (fs : FileSystem) (p : Path) : Bool :=
  (fs.find? p).any FileTree.isFolder

/-- The content of a file. -/
def read? (fs : FileSystem) (p : Path) : Option Bytes :=
  match fs.find? p with
  | some (.file bytes) => some bytes
  | _ => none

def isFile (fs : FileSystem) (p : Path) : Bool :=
  (fs.read? p).isSome

-- ---------------------------------------------------------------------------
-- Walks
-- ---------------------------------------------------------------------------

/-- Whether two entries of one folder are in order, each by the path that leads to it. Where the
paths look the same, either order will do. -/
def pathLe (a b : RawPath × List (RawPath × Option Bytes)) : Bool :=
  decide (a.1.shown.text ≤ b.1.shown.text)

mutual

/-- The files of the tree at `path`, each with its path: folder by folder, in order. At a path that
cannot be followed a folder is not told from a file, and there is nothing to read. -/
def walk (path : RawPath) : FileTree → List (RawPath × Option Bytes)
  | .file bytes => [(path, if isProper path then some bytes else none)]
  | .folder entries =>
    if isProper path then ((walkEntries path entries).mergeSort pathLe).flatMap (·.2)
    else [(path, none)]

/-- The files under every entry of the folder at `path`. -/
def walkEntries (path : RawPath) :
    List (FileName × FileTree) → List (RawPath × List (RawPath × Option Bytes))
  | [] => []
  | (name, t) :: entries =>
    (path.enter name, walk (path.enter name) t) :: walkEntries path entries

end

-- ---------------------------------------------------------------------------
-- Writing
-- ---------------------------------------------------------------------------

/-- The names that lead to a file that is there or can be made: its folder must be there. -/
def target? (fs : FileSystem) (p : Path) : Option (List FileName) :=
  let segments := Text.segments '/' p.text
  match segments.getLast? with
  | none | some "" | some "." | some ".." => none
  | some name =>
    if isProper p.raw && name.utf8ByteSize ≤ nameLimit then do
      let folder ← segments.dropLast.foldlM fs.stepTo (fs.start p)
      match fs.root.at? folder with
      | some (.folder _) => some (folder ++ [.ofText name])
      | _ => none
    else none

/-- The file system with a file at the end of a chain of names. -/
def put (fs : FileSystem) (names : List FileName) (bytes : Bytes) : FileSystem :=
  { fs with root := FileTree.update (fun _ => .file bytes) names (some fs.root) }

/-- The file system after a file was made or its content replaced. -/
def write? (fs : FileSystem) (p : Path) (bytes : Bytes) : Option FileSystem :=
  match fs.target? p with
  | none => none
  | some names =>
    match fs.root.at? names with
    | some (.folder _) => none
    | _ => some (fs.put names bytes)

end FileSystem

end ClassAtlas
