import ClassAtlas.RawPath

/-!
# File trees

Folders and files as one value, the entries of a folder in the order in which
the disk lists them.
-/

namespace ClassAtlas

inductive FileTree where
  | file (bytes : Bytes)
  | folder (entries : List (FileName × FileTree))

namespace FileTree

def empty : FileTree := .folder []

instance : Inhabited FileTree := ⟨empty⟩

def isFolder : FileTree → Bool
  | file _ => false
  | folder _ => true

def isFile (t : FileTree) : Bool :=
  !t.isFolder

/-- The entry with this name. -/
def entry? : FileTree → FileName → Option FileTree
  | file _, _ => none
  | folder entries, name => entries.lookup name

/-- What stands at the end of a chain of names. -/
def at? : FileTree → List FileName → Option FileTree
  | t, [] => some t
  | t, name :: names => (t.entry? name).bind (·.at? names)

/-- The tree with another entry under this name. -/
def setEntry (t : FileTree) (name : FileName) (entry : FileTree) : FileTree :=
  match t with
  | file _ => .folder [(name, entry)]
  | folder entries => .folder ((name, entry) :: entries.filter (·.1 != name))

/-- Changes what stands at the end of a chain of names, with folders made on the way to it. -/
def update (f : Option FileTree → FileTree) : List FileName → Option FileTree → FileTree
  | [], t => f t
  | name :: names, t =>
    let folder := t.getD empty
    folder.setEntry name (update f names (folder.entry? name))

mutual

/-- How many files the tree holds. -/
def fileCount : FileTree → Nat
  | .file _ => 1
  | .folder entries => fileCountEntries entries

def fileCountEntries : List (FileName × FileTree) → Nat
  | [] => 0
  | (_, t) :: entries => fileCount t + fileCountEntries entries

end

end FileTree

end ClassAtlas
