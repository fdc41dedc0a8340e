import ClassAtlas.Cli.Run

/-!
# The command

Takes a picture of the files that the arguments name, runs on the picture, and
writes what the run leaves behind.
-/

namespace ClassAtlas.Main

-- ---------------------------------------------------------------------------
-- Taking a picture
-- ---------------------------------------------------------------------------

/-- What stands at a path of the disk. -/
partial def readTree (path : String) : IO (Option FileTree) := do
  let place := (← IO.currentDir) / path
  if ← place.isDir then
    let mut entries := []
    for entry in ← place.readDir do
      if let some tree ← readTree (path ++ "/" ++ entry.fileName) then
        entries := (.ofText entry.fileName, tree) :: entries
    return some (.folder entries)
  else if ← place.pathExists then
    return some (.file (← IO.FS.readBinFile place).toList)
  else
    return none

def emptyFiles : IO FileSystem := do
  let names := (Text.segments '/' (← IO.currentDir).toString).filter (· != "")
  let working := names.map FileName.ofText
  return ⟨FileTree.update (·.getD .empty) working none, working⟩

/-- The names that a path leads to, seen from the root. -/
def namesOf (fs : FileSystem) (path : Path) : List FileName :=
  (Text.segments '/' path.text).foldl (fun names segment =>
    match segment with
    | "" | "." => names
    | ".." => names.dropLast
    | name => names ++ [.ofText name]) (fs.start path)

/-- The paths that a path passes on its way. -/
def waypoints (path : Path) : List Path :=
  let segments := Text.segments '/' path.text
  (List.range segments.length).map fun n => ⟨Text.joined '/' (segments.take n)⟩

def addFolder (fs : FileSystem) (path : Path) : IO FileSystem := do
  if FileSystem.isProper path.raw && (← ((← IO.currentDir) / path.text).isDir) then
    return { fs with
      root := FileTree.update (·.getD .empty) (namesOf fs path) (some fs.root) }
  else return fs

/-- Adds the folders that a path passes, itself included if it is one. -/
def addWay (fs : FileSystem) (path : Path) : IO FileSystem :=
  (waypoints path ++ [path]).foldlM addFolder fs

/-- Adds everything that stands at a path. -/
def addTree (fs : FileSystem) (path : Path) : IO FileSystem := do
  let fs ← addWay fs path
  if FileSystem.isProper path.raw then
    if let some tree ← readTree path.text then
      return { fs with root := FileTree.update (fun _ => tree) (namesOf fs path) (some fs.root) }
  return fs

/-- The files that a run with these arguments looks at. -/
def picture (a : Cli.Arguments) : IO FileSystem := do
  let fs ← a.settings.toList.foldlM addTree (← emptyFiles)
  let settings := match a.loadSettings fs with
    | .ok settings => settings
    | .error _ => .empty
  let fs ← (a.input :: a.mergedClasspath settings).foldlM addTree fs
  a.output.toList.foldlM addWay fs

-- ---------------------------------------------------------------------------
-- Running
-- ---------------------------------------------------------------------------

/-- Puts the output of a run where it belongs. -/
def deliver (a : Cli.Arguments) (outcome : Cli.Outcome) : IO Unit := do
  IO.print outcome.standardOutput
  if let some path := a.output then
    unless Cli.isStandardOutput path do
      if let some bytes := outcome.files.read? path then
        IO.FS.writeBinFile path.text bytes.toByteArray

def complain (e : Cli.RunError) : IO Unit := do
  IO.eprintln ("Error: " ++ e.message)
  if let some failure := e.failure? then
    IO.eprintln ("Caused by: " ++ failure.message)

def execute (words : List String) : IO UInt32 := do
  match Cli.Arguments.parse words with
  | .error e =>
    if e.isRequest then
      IO.println e.message
      return 0
    else
      IO.eprintln ("error: " ++ e.message)
      return 2
  | .ok a =>
    match Cli.run (← picture a) a with
    | .ok outcome =>
      deliver a outcome
      return 0
    | .error e =>
      complain e
      return 1

end ClassAtlas.Main

def main (words : List String) : IO UInt32 :=
  ClassAtlas.Main.execute words
