import ClassAtlas.ClassFile.Attribute
import ClassAtlas.Module.File

/-!
# Class files

The structure of a class file, from the magic number to the last attribute.
Nothing may follow.
-/

namespace ClassAtlas

/-- A field or method, by the numbers of its name and its descriptor. -/
structure MemberInfo where
  flags : UInt16
  name : Nat
  descriptor : Nat
deriving DecidableEq

structure ClassFile where
  pool : ConstantPool
  flags : UInt16
  thisClass : Nat
  /-- Zero if there is none. -/
  superClass : Nat
  interfaces : List Nat
  fields : List MemberInfo
  methods : List MemberInfo
  attributes : List ClassFile.Attribute
deriving DecidableEq

namespace ClassFile

def decodeText (bytes : Bytes) : Except ClassFileFault String :=
  match Text.ModifiedUtf8.decode? bytes with
  | some text => .ok text
  | none => .error .badText

def member (nested : Read Attribute) : Read MemberInfo := do
  let flags ← Reader.flags
  let name ← Reader.u16
  let descriptor ← Reader.u16
  let _ ← Reader.list nested
  return ⟨flags, name, descriptor⟩

/-- Reads a class file whose structures nest at most `fuel` levels. -/
def file (fuel : Nat) : Read ClassFile := do
  let magic ← Reader.u32
  if magic ≠ classFileMagic then Reader.fail .notAClassFile
  Reader.skip 4
  let pool ← ConstantPool.read decodeText
  let flags ← Reader.flags
  let thisClass ← Reader.u16
  let superClass ← Reader.u16
  let interfaces ← Reader.list Reader.u16
  let fields ← Reader.list (member (readAttribute pool fuel))
  let methods ← Reader.list (member (readAttribute pool fuel))
  let attributes ← Reader.list (readAttribute pool fuel)
  let left ← Reader.remaining
  if left ≠ 0 then Reader.fail .trailingBytes
  return ⟨pool, flags, thisClass, superClass, interfaces, fields, methods, attributes⟩

def parse (bytes : Bytes) : Except ClassFileFault ClassFile :=
  (file (bytes.length + 1)).runOn bytes

/-- The types of the annotations on the class, in the order of the attributes. -/
def annotationTypes (c : ClassFile) : List Nat :=
  c.attributes.flatMap fun
    | .annotations types => types
    | .other => []

end ClassFile

end ClassAtlas
