import ClassAtlas.Member
import ClassAtlas.Position

/-!
# Class declarations
-/

namespace ClassAtlas

/-- What is known of a class once it is decoded. -/
structure ClassDecl where
  name : ClassName
  modifiers : Modifiers
  position : Option Position
  superclass : Option ClassName
  interfaces : List ClassName
  fields : List Field
  methods : List Method
  annotations : List Annotation
deriving DecidableEq

namespace ClassDecl

/-- A public class that declares nothing else. -/
def ofName (name : ClassName) : ClassDecl :=
  ⟨name, .ofList [.publicAccess], none, none, [], [], [], []⟩

instance : Inhabited ClassDecl := ⟨ofName default⟩

def isInterface (c : ClassDecl) : Bool :=
  c.modifiers.contains .interface

/-- The superclass, then the interfaces. -/
def supertypes (c : ClassDecl) : List ClassName :=
  c.superclass.toList ++ c.interfaces

/-- The first field with this name. -/
def field? (c : ClassDecl) (name : String) : Option Field :=
  c.fields.find? (·.name == name)

def methodsNamed (c : ClassDecl) (name : String) : List Method :=
  c.methods.filter (·.name == name)

end ClassDecl

/-- How much of a class is loaded. -/
structure LoadOptions where
  /-- Whether fields and methods are loaded at all. -/
  members : Bool
  /-- Whether members that the compiler made up are kept. -/
  synthetic : Bool
deriving DecidableEq

namespace LoadOptions

def full : LoadOptions := ⟨true, true⟩

instance : Inhabited LoadOptions := ⟨full⟩

/-- Whether a member with these modifiers is kept. -/
def keeps (options : LoadOptions) (modifiers : Modifiers) : Bool :=
  options.synthetic || !modifiers.contains .synthetic

end LoadOptions

end ClassAtlas
