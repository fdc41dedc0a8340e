import ClassAtlas.Bytes.ConstantPool
import ClassAtlas.Text.ModifiedUtf8

/-!
# Attributes of class files

Every attribute is read by the structure that its name stands for, whatever
length it declares, and an attribute with another name is refused. Only the
types of annotations are kept. Annotations and attributes nest; as every level
takes bytes of its own, the size of the file bounds their depth.
-/

namespace ClassAtlas

/-- Why bytes are no class file. -/
inductive ClassFileFault where
  | truncated
  | notAClassFile
  | trailingBytes
  | unknownTag (tag : Nat)
  | badText
  | badAttributeName (index : Nat)
  | unknownAttribute (name : String)
  | badElementTag (tag : Nat)
  | badFrame (type : Nat)
  | badVerificationType (tag : Nat)
  | badTarget (type : Nat)
  | badLength (length : Nat)
  | tooDeep
deriving DecidableEq

def ClassFileFault.message : ClassFileFault → String
  | truncated => "unexpected end of class file"
  | notAClassFile => "not a class file"
  | trailingBytes => "bytes after the end of the class file"
  | unknownTag tag => "unknown constant pool tag " ++ toString tag
  | badText => "malformed text"
  | badAttributeName index => "no attribute name at index " ++ toString index
  | unknownAttribute name => "unknown attribute " ++ name
  | badElementTag tag => "unknown element value tag " ++ toString tag
  | badFrame type => "unknown stack map frame type " ++ toString type
  | badVerificationType tag => "unknown verification type " ++ toString tag
  | badTarget type => "unknown type annotation target " ++ toString type
  | badLength length => "attribute of " ++ toString length ++ " bytes passes the end"
  | tooDeep => "structures nest too deep"

instance : PoolFault ClassFileFault where
  truncated _ _ _ := .truncated
  unknownTag := .unknownTag

namespace ClassFile

abbrev Read := Reader ClassFileFault

/-- A count of one byte, and then as many items. -/
def shortList {α : Type} (item : Read α) : Read (List α) := do
  let count ← Reader.u8
  Reader.replicate count item

/-- A count, and then as many records of `size` bytes. -/
def records (size : Nat) : Read Unit := do
  let _ ← Reader.list (Reader.skip size : Read Unit)

-- ---------------------------------------------------------------------------
-- Annotations
-- ---------------------------------------------------------------------------

/-- The type of an annotation whose element values are passed over by `value`. -/
def annotationWith (value : Read Unit) : Read Nat := do
  let type ← Reader.u16
  let _ ← Reader.list do
    Reader.skip 2
    value
  return type

/-- Passes over an element value, at most `fuel` levels deep. -/
def elementValue : Nat → Read Unit
  | 0 => Reader.fail .tooDeep
  | fuel + 1 => do
    let tag ← Reader.u8
    match Char.ofNat tag with
    | 'B' | 'C' | 'D' | 'F' | 'I' | 'J' | 'S' | 'Z' | 's' | 'c' => Reader.skip 2
    | 'e' => Reader.skip 4
    | '@' =>
      let _ ← annotationWith (elementValue fuel)
    | '[' =>
      let _ ← Reader.list (elementValue fuel)
    | _ => Reader.fail (.badElementTag tag)

/-- The types of a list of annotations. -/
def annotations (fuel : Nat) : Read (List Nat) :=
  Reader.list (annotationWith (elementValue fuel))

-- ---------------------------------------------------------------------------
-- Type annotations
-- ---------------------------------------------------------------------------

/-- Passes over what a type annotation is about. -/
def target : Read Unit := do
  let type ← Reader.u8
  match type with
  | 0x00 | 0x01 | 0x16 => Reader.skip 1
  | 0x10 | 0x11 | 0x12 | 0x17 | 0x42 | 0x43 | 0x44 | 0x45 | 0x46 => Reader.skip 2
  | 0x13 | 0x14 | 0x15 => pure ()
  | 0x40 | 0x41 => records 6
  | 0x47 | 0x48 | 0x49 | 0x4A | 0x4B => Reader.skip 3
  | _ => Reader.fail (.badTarget type)

def annotatedType (fuel : Nat) : Read Unit := do
  target
  let _ ← shortList (Reader.skip 2 : Read Unit)
  let _ ← annotationWith (elementValue fuel)

-- ---------------------------------------------------------------------------
-- Stack maps
-- ---------------------------------------------------------------------------

def verificationType : Read Unit := do
  let tag ← Reader.u8
  if tag ≤ 6 then pure ()
  else if tag ≤ 8 then Reader.skip 2
  else Reader.fail (.badVerificationType tag)

def verificationTypes (n : Nat) : Read Unit := do
  let _ ← Reader.replicate n verificationType

def stackMapFrame : Read Unit := do
  let type ← Reader.u8
  if type < 64 then pure ()
  else if type < 128 then verificationType
  else if type < 247 then Reader.fail (.badFrame type)
  else
    Reader.skip 2
    if type = 247 then verificationType
    else if type < 252 then pure ()
    else if type < 255 then verificationTypes (type - 251)
    else
      let _ ← Reader.list verificationType
      let _ ← Reader.list verificationType

-- ---------------------------------------------------------------------------
-- Attributes
-- ---------------------------------------------------------------------------

inductive Attribute where
  /-- The types of annotations, by the numbers of their descriptors. -/
  | annotations (types : List Nat)
  | other
deriving DecidableEq

/-- Passes over an attribute that nothing is kept of. -/
def other (body : Read Unit) : Read Attribute := do
  body
  return .other

/-- Refuses a declared length that passes the end of the file. -/
def checkLength (length : Nat) : Read Unit := do
  let left ← Reader.remaining
  if left < length then Reader.fail (.badLength length)

def codeBody (nested : Read Attribute) : Read Unit := do
  Reader.skip 4
  let length ← Reader.u32
  Reader.skip length
  records 8
  let _ ← Reader.list nested

def recordComponent (nested : Read Attribute) : Read Unit := do
  Reader.skip 4
  let _ ← Reader.list nested

/-- The body of the attribute with this name. Attributes inside of it are read by `nested`, and
element values nest at most `fuel` levels. -/
def attributeBody (nested : Read Attribute) (fuel : Nat) (name : String) (length : Nat) :
    Read Attribute :=
  match name with
  | "Synthetic" | "Deprecated" => other (pure ())
  | "ConstantValue" | "SourceFile" | "Signature" | "NestHost" => other (Reader.skip 2)
  | "EnclosingMethod" => other (Reader.skip 4)
  | "Exceptions" | "NestMembers" | "PermittedSubclasses" => other (records 2)
  | "LineNumberTable" => other (records 4)
  | "InnerClasses" => other (records 8)
  | "LocalVariableTable" | "LocalVariableTypeTable" => other (records 10)
  | "MethodParameters" => other do
    let _ ← shortList (Reader.skip 4 : Read Unit)
  | "BootstrapMethods" => other do
    let _ ← Reader.list do
      Reader.skip 2
      records 2
  | "Code" => other (codeBody nested)
  | "Record" => other do
    let _ ← Reader.list (recordComponent nested)
  | "StackMapTable" => other do
    let _ ← Reader.list stackMapFrame
  | "RuntimeVisibleAnnotations" => do
    checkLength length
    return .annotations (← annotations fuel)
  | "RuntimeInvisibleAnnotations" => do
    return .annotations (← annotations fuel)
  | "RuntimeVisibleParameterAnnotations" => other do
    let _ ← shortList (annotations fuel)
  | "RuntimeVisibleTypeAnnotations" => other do
    let _ ← Reader.list (annotatedType fuel)
  | "AnnotationDefault" => other do
    checkLength length
    elementValue fuel
  | name => Reader.fail (.unknownAttribute name)

/-- Reads an attribute, at most `fuel` levels deep. -/
def readAttribute (pool : ConstantPool) : Nat → Read Attribute
  | 0 => Reader.fail .tooDeep
  | fuel + 1 => do
    let nameIndex ← Reader.u16
    match pool.text? nameIndex with
    | none => Reader.fail (.badAttributeName nameIndex)
    | some name =>
      let length ← Reader.u32
      attributeBody (readAttribute pool fuel) (fuel + 1) name length

end ClassFile

end ClassAtlas
