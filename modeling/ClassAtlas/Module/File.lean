import ClassAtlas.Bytes.ConstantPool
import ClassAtlas.Module.Descriptor
import ClassAtlas.Text.Utf8

/-!
# Module files

Reads the descriptor of a module out of its class file. Everything on the way
to the first attribute called `Module` is passed over by its length, and
nothing after it is looked at.
-/

namespace ClassAtlas

/-- Why a file holds no module descriptor. -/
inductive ModuleFault where
  | truncated (need position size : Nat)
  | unknownTag (tag : Nat)
  | notAClassFile
  | notAModule
  | noAttribute
  | noText (index : Nat)
  | noConstant (tag index : Nat)
deriving DecidableEq

def ModuleFault.message : ModuleFault → String
  | truncated need position size =>
    "truncated class file: need " ++ toString need ++ " bytes at " ++ toString position ++
      ", have " ++ toString size
  | unknownTag tag => "unknown constant pool tag " ++ toString tag
  | notAClassFile => "not a class file"
  | notAModule => "class file is not a module descriptor"
  | noAttribute => "missing Module attribute"
  | noText index => "expected UTF8 constant at index " ++ toString index
  | noConstant tag index =>
    "expected constant with tag " ++ toString tag ++ " at index " ++ toString index

instance : PoolFault ModuleFault where
  truncated := .truncated
  unknownTag := .unknownTag

/-- The number that every class file opens with. -/
def classFileMagic : Nat := 0xCAFEBABE

namespace ModuleFile

abbrev Read := Reader ModuleFault

/-- The access flag of a class file that describes a module. -/
def moduleFlag : UInt16 := 0x8000

def attributeName : String := "Module"

-- ---------------------------------------------------------------------------
-- Names
-- ---------------------------------------------------------------------------

def text (pool : ConstantPool) (index : Nat) : Read String :=
  match pool.text? index with
  | some value => pure value
  | none => Reader.fail (.noText index)

/-- The name that the next number leads to through a constant with this tag. -/
def name (pool : ConstantPool) (tag : Nat) : Read String := do
  let index ← Reader.u16
  match pool.nameIndex? tag index with
  | some nameIndex => text pool nameIndex
  | none => Reader.fail (.noConstant tag index)

-- ---------------------------------------------------------------------------
-- The attribute
-- ---------------------------------------------------------------------------

def requirement (pool : ConstantPool) : Read Requirement := do
  let module ← name pool PoolEntry.moduleTag
  let flags ← Reader.flags
  Reader.skip 2
  return ⟨module, flags⟩

def packageDirective (pool : ConstantPool) : Read PackageDirective := do
  let package ← name pool PoolEntry.packageTag
  let flags ← Reader.flags
  let targets ← Reader.list (name pool PoolEntry.moduleTag)
  return ⟨package, flags, targets⟩

def provision (pool : ConstantPool) : Read Provision := do
  let service ← name pool PoolEntry.classTag
  let providers ← Reader.list (name pool PoolEntry.classTag)
  return ⟨service, providers⟩

def descriptor (pool : ConstantPool) : Read ModuleDescriptor := do
  let name ← ModuleFile.name pool PoolEntry.moduleTag
  let flags ← Reader.flags
  Reader.skip 2
  let requires ← Reader.list (requirement pool)
  let exports ← Reader.list (packageDirective pool)
  let opens ← Reader.list (packageDirective pool)
  let uses ← Reader.list (ModuleFile.name pool PoolEntry.classTag)
  let provides ← Reader.list (provision pool)
  return ⟨name, flags, requires, exports, opens, provides, uses⟩

-- ---------------------------------------------------------------------------
-- The way to it
-- ---------------------------------------------------------------------------

/-- Passes over an attribute by its length. -/
def skipAttribute : Read Unit := do
  Reader.skip 2
  let length ← Reader.u32
  Reader.skip length

/-- Passes over a field or method. -/
def skipMember : Read Unit := do
  Reader.skip 6
  let _ ← Reader.list skipAttribute

/-- The descriptor in the first of the next `n` attributes that has the right name. -/
def findDescriptor (pool : ConstantPool) : Nat → Read ModuleDescriptor
  | 0 => Reader.fail .noAttribute
  | n + 1 => do
    let name ← text pool (← Reader.u16)
    let length ← Reader.u32
    let body ← Reader.take length
    if name = attributeName then
      match (descriptor pool).runOn body with
      | .ok descriptor => return descriptor
      | .error e => Reader.fail e
    else findDescriptor pool n

/-- What stands before the attributes: the constants, and how many attributes there are. -/
def head : Read (ConstantPool × Nat) := do
  let magic ← Reader.u32
  if magic ≠ classFileMagic then Reader.fail .notAClassFile
  else
    Reader.skip 4
    let pool ← ConstantPool.read fun bytes => .ok (Text.Utf8.decodeLossy bytes)
    let flags ← Reader.flags
    if flags &&& moduleFlag = 0 then Reader.fail .notAModule
    else
      Reader.skip 4
      let interfaces ← Reader.u16
      Reader.skip (interfaces * 2)
      let _ ← Reader.list skipMember
      let _ ← Reader.list skipMember
      let attributes ← Reader.u16
      return (pool, attributes)

def file : Read ModuleDescriptor := do
  let (pool, attributes) ← head
  findDescriptor pool attributes

/-- The descriptor in a module's class file. -/
def decode (bytes : Bytes) : Except ModuleFault ModuleDescriptor :=
  file.runOn bytes

end ModuleFile

end ClassAtlas
