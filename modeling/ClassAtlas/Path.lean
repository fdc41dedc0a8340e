import ClassAtlas.ClassName

/-!
# Paths

A path is kept as it was written and compared by its components: repeated and
trailing slashes and inner dots make no difference, a leading dot and every
pair of dots do. Joining writes one text after the other and never tidies up.
-/

namespace ClassAtlas

structure Path where
  text : String
deriving DecidableEq, Inhabited

namespace Path

inductive Component where
  | root
  | here
  | up
  | name (text : String)
deriving DecidableEq

def Component.text : Component → String
  | .root => "/"
  | .here => "."
  | .up => ".."
  | .name text => text

-- ---------------------------------------------------------------------------
-- Components
-- ---------------------------------------------------------------------------

def isAbsolute (p : Path) : Bool :=
  p.text.toList.head? == some '/'

/-- The component that one segment stands for; empty segments and single dots stand for none. -/
def Component.ofSegment : List Char → Option Component
  | [] => none
  | ['.'] => none
  | ['.', '.'] => some .up
  | cs => some (.name (String.ofList cs))

def components (p : Path) : List Component :=
  let segments := Text.split '/' p.text.toList
  let named := segments.filterMap Component.ofSegment
  if p.isAbsolute then .root :: named
  else if segments.head? = some ['.'] then .here :: named
  else named

/-- Whether two paths have the same components. -/
def same (p q : Path) : Bool :=
  p.components == q.components

-- ---------------------------------------------------------------------------
-- The last component
-- ---------------------------------------------------------------------------

def fileName? (p : Path) : Option String :=
  match p.components.getLast? with
  | some (.name text) => some text
  | _ => none

/-- Stem and extension of a file name. A name whose only dot is first has no extension. -/
def splitExtension (name : String) : String × Option String :=
  match Text.splitLast '.' name.toList with
  | none => (name, none)
  | some ([], _) => (name, none)
  | some (before, after) => (String.ofList before, some (String.ofList after))

def extension? (p : Path) : Option String :=
  p.fileName?.bind fun name => (splitExtension name).2

def fileStem? (p : Path) : Option String :=
  p.fileName?.map fun name => (splitExtension name).1

-- ---------------------------------------------------------------------------
-- Joining
-- ---------------------------------------------------------------------------

/-- `rest` under `base`. An absolute `rest` takes the place of `base`. -/
def join (base rest : Path) : Path :=
  if rest.isAbsolute then rest
  else
    match base.text.toList.getLast? with
    | none => rest
    | some '/' => ⟨base.text ++ rest.text⟩
    | some _ => ⟨base.text ++ "/" ++ rest.text⟩

end Path

/-- The class that a `.class` file at this path is meant to hold. -/
def ClassName.ofPath? (p : Path) : Option ClassName :=
  if p.extension? = some "class" then
    p.fileStem?.map fun stem =>
      inPackage (Text.joined '.' (p.components.dropLast.map Path.Component.text)) stem
  else none

end ClassAtlas
