import ClassAtlas.Text.Segments

/-!
# Class names

A class is known by its package and its simple name. Every spelling found in
class files, archives and source text is folded into this one key: the last
dot of a dotted name ends the package, whatever the spelling called a package.
-/

namespace ClassAtlas

structure ClassName where
  /-- Dotted; empty for the default package. -/
  package : String
  simple : String
deriving DecidableEq, Inhabited

namespace ClassName

-- ---------------------------------------------------------------------------
-- Spellings
-- ---------------------------------------------------------------------------

/-- `java.lang.String` style. -/
def dotted (c : ClassName) : String :=
  if c.package = "" then c.simple else c.package ++ "." ++ c.simple

/-- `java/lang/String` style, as class files write it. -/
def internal (c : ClassName) : String :=
  Text.exchange '.' '/' c.dotted

def ofDotted (name : String) : ClassName :=
  match Text.splitLast '.' name.toList with
  | some (package, simple) => ⟨String.ofList package, String.ofList simple⟩
  | none => ⟨"", name⟩

def ofInternal (name : String) : ClassName :=
  ofDotted (Text.exchange '/' '.' name)

/-- A dotted `simple` goes on the package, so the key depends on the whole name only. -/
def inPackage (package simple : String) : ClassName :=
  if package = "" then ofDotted simple else ofDotted (package ++ "." ++ simple)

-- ---------------------------------------------------------------------------
-- Names with a role of their own
-- ---------------------------------------------------------------------------

/-- Simple name of the unit that holds a module descriptor. -/
def moduleInfoName : String := "module-info"

/-- Simple name of the unit that holds a package's annotations. -/
def packageInfoName : String := "package-info"

/-- The unit that describes the module called `module`. -/
def moduleInfo (module : String) : ClassName :=
  inPackage module moduleInfoName

def packageInfo (package : String) : ClassName :=
  inPackage package packageInfoName

def isModuleInfo (c : ClassName) : Bool :=
  c.simple == moduleInfoName

def isPackageInfo (c : ClassName) : Bool :=
  c.simple == packageInfoName

def isInner (c : ClassName) : Bool :=
  c.simple.toList.contains '$'

def object : ClassName := ⟨"java.lang", "Object"⟩
def cloneable : ClassName := ⟨"java.lang", "Cloneable"⟩
def serializable : ClassName := ⟨"java.io", "Serializable"⟩
def string : ClassName := ⟨"java.lang", "String"⟩
def classObject : ClassName := ⟨"java.lang", "Class"⟩

-- ---------------------------------------------------------------------------
-- Order
-- ---------------------------------------------------------------------------

/-- By package, then by simple name, each by code points. -/
def le (a b : ClassName) : Bool :=
  decide (a.package < b.package) || (a.package == b.package && decide (a.simple ≤ b.simple))

/-- The names in increasing order, each once. -/
def sorted (names : List ClassName) : List ClassName :=
  names.eraseDups.mergeSort le

end ClassName

/-- An annotation on a declaration, known by its type. -/
structure Annotation where
  type : ClassName
deriving DecidableEq, Inhabited

def Annotation.text (a : Annotation) : String :=
  "@" ++ a.type.dotted

end ClassAtlas
