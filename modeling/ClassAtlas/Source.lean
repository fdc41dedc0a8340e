import ClassAtlas.ClassFile.Decode
import ClassAtlas.Module.Relations

/-!
# Sources and units

A source is a decoded class or module together with where it was found. A unit
is built from it, and says as well which part of the program it belongs to.
-/

namespace ClassAtlas

-- ---------------------------------------------------------------------------
-- Sources
-- ---------------------------------------------------------------------------

structure Origin where
  /-- The name of the location that offers the source. -/
  location : String
  path : Path
deriving DecidableEq, Inhabited

inductive Source where
  | standard (origin : Origin) (decl : ClassDecl)
  | module (origin : Origin) (descriptor : ModuleDescriptor)
deriving DecidableEq

/-- The ending of the names of class files. -/
def classSuffix : String := ".class"

/-- Where the file of a class is, seen from the root of its packages. -/
def ClassName.file (c : ClassName) : Path :=
  ⟨c.internal ++ classSuffix⟩

/-- Where the file of a module descriptor is, seen from the root of the packages. -/
def moduleFilePath : Path :=
  ⟨ClassName.moduleInfoName ++ classSuffix⟩

namespace Source

def origin : Source → Origin
  | standard origin _ => origin
  | module origin _ => origin

def name : Source → ClassName
  | standard _ decl => decl.name
  | module _ descriptor => descriptor.unitName

def moduleName? : Source → Option String
  | standard .. => none
  | module _ descriptor => some descriptor.name

/-- A class given as a declaration. -/
def declare (location : String) (decl : ClassDecl) : Source :=
  .standard ⟨location, decl.name.file⟩ decl

/-- A module given as a descriptor. -/
def describe (location : String) (descriptor : ModuleDescriptor) : Source :=
  .module ⟨location, moduleFilePath⟩ descriptor

/-- The same source with another origin. -/
def withOrigin (origin : Origin) : Source → Source
  | standard _ decl => .standard origin decl
  | module _ descriptor => .module origin descriptor

/-- Decodes the class file at a path. -/
def ofClassFile [Formats] (location : String) (path : Path) (options : LoadOptions)
    (bytes : Bytes) : Except Failure Source :=
  (ClassFile.decode path.text options bytes).map (.standard ⟨location, path⟩)

/-- Decodes the module file at a path. -/
def ofModuleFile (location : String) (path : Path) (bytes : Bytes) : Except Failure Source :=
  match ModuleFile.decode bytes with
  | .ok descriptor => .ok (.module ⟨location, path⟩ descriptor)
  | .error fault => .error (.undecodable path.text (.moduleFile fault))

end Source

-- ---------------------------------------------------------------------------
-- Units
-- ---------------------------------------------------------------------------

/-- The part of a program that a location holds. -/
inductive Role where
  | application
  | library
deriving DecidableEq, Inhabited

def Role.name : Role → String
  | application => "application"
  | library => "library"

structure ClassUnit where
  role : Role
  origin : Origin
  decl : ClassDecl
deriving DecidableEq

structure ModuleUnit where
  role : Role
  origin : Origin
  name : ClassName
  moduleName : String
  modifiers : Modifiers
  requires : List ModuleReference
  exports : List PackageReference
  opens : List PackageReference
  provides : List ServiceProvision
  uses : List ClassName
deriving DecidableEq

def ModuleUnit.isOpen (m : ModuleUnit) : Bool :=
  m.modifiers.contains .openModule

inductive ResolvedUnit where
  | standard (c : ClassUnit)
  | module (m : ModuleUnit)
deriving DecidableEq

namespace ResolvedUnit

def role : ResolvedUnit → Role
  | standard c => c.role
  | module m => m.role

def origin : ResolvedUnit → Origin
  | standard c => c.origin
  | module m => m.origin

def name : ResolvedUnit → ClassName
  | standard c => c.decl.name
  | module m => m.name

def kind : ResolvedUnit → UnitKind
  | standard _ => .standard
  | module _ => .module

def standard? : ResolvedUnit → Option ClassUnit
  | standard c => some c
  | module _ => none

end ResolvedUnit

def Source.build (role : Role) : Source → ResolvedUnit
  | .standard origin decl => .standard ⟨role, origin, decl⟩
  | .module origin d =>
    .module ⟨role, origin, d.unitName, d.name, d.modifiers, d.requiredModules, d.exportedPackages,
      d.openedPackages, d.providedServices, d.usedServices⟩

@[simp] theorem Source.role_build (role : Role) (s : Source) : (s.build role).role = role := by
  cases s <;> rfl

@[simp] theorem Source.origin_build (role : Role) (s : Source) :
    (s.build role).origin = s.origin := by
  cases s <;> rfl

@[simp] theorem Source.name_build (role : Role) (s : Source) : (s.build role).name = s.name := by
  cases s <;> rfl

end ClassAtlas
