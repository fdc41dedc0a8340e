import ClassAtlas.ClassFile.Attribute
import ClassAtlas.ClassName
import ClassAtlas.Descriptor
import ClassAtlas.Module.File
import ClassAtlas.Path

/-!
# Failures of loading

Why a class could not be loaded.
-/

namespace ClassAtlas

/-- Why bytes do not decode. -/
inductive DecodeFault where
  | classFile (fault : ClassFileFault)
  | moduleFile (fault : ModuleFault)
  | noText (index : Nat)
  | noClass (index : Nat)
  | descriptor (fault : InvalidDescriptor)
  | annotationType (type : JavaType)
  | declares (found expected : ClassName)
  | other (reason : String)
deriving DecidableEq

def DecodeFault.message : DecodeFault → String
  | classFile fault => fault.message
  | moduleFile fault => fault.message
  | noText index => "expected UTF8 constant at index " ++ toString index
  | noClass index => "expected class constant at index " ++ toString index
  | descriptor fault => fault.message
  | annotationType type => "annotation type " ++ type.text ++ " is not a class"
  | declares found expected => "declares " ++ found.dotted ++ " instead of " ++ expected.dotted
  | other reason => reason

/-- What a resolved unit can be. -/
inductive UnitKind where
  | standard
  | module
deriving DecidableEq

def UnitKind.name : UnitKind → String
  | standard => "class"
  | module => "module descriptor"

inductive Failure where
  | notFound (name : ClassName)
  /-- More than one location offers the class. -/
  | ambiguous (name : ClassName) (locations : List String)
  | wrongKind (name : ClassName) (expected found : UnitKind)
  | unreadable (path : Path)
  | badArchive (path : Path)
  | undecodable (origin : String) (fault : DecodeFault)
deriving DecidableEq

namespace Failure

/-- The texts with commas and blanks between them. -/
def commaList : List String → String
  | [] => ""
  | [s] => s
  | s :: t :: rest => s ++ ", " ++ commaList (t :: rest)

def message : Failure → String
  | notFound name => "no class candidates for \"" ++ name.dotted ++ "\" found"
  | ambiguous name locations =>
    "multiple class candidates for \"" ++ name.dotted ++ "\" found in input locations [" ++
      commaList locations ++ "]"
  | wrongKind name expected found =>
    name.dotted ++ " is a " ++ found.name ++ ", expected a " ++ expected.name
  | unreadable path => "failed to read " ++ path.text
  | badArchive path => "failed to read archive " ++ path.text
  | undecodable origin fault => "failed to decode " ++ origin ++ ": " ++ fault.message

/-- A descriptor is decoded for its own sake, wherever it was found. -/
def ofDescriptor (fault : InvalidDescriptor) : Failure :=
  .undecodable "descriptor" (.descriptor fault)

end Failure

end ClassAtlas
