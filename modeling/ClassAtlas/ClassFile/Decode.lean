import ClassAtlas.Declaration
import ClassAtlas.Descriptor.Reading
import ClassAtlas.Failure

/-!
# Decoding of class files

The declaration that a class file holds. Names are looked up in the constant
pool as far as the options ask for them: a broken member of a class whose
members are not loaded does no harm.
-/

namespace ClassAtlas.ClassFile

variable (pool : ConstantPool) (origin : String)

-- ---------------------------------------------------------------------------
-- Names
-- ---------------------------------------------------------------------------

def text (index : Nat) : Except Failure String :=
  match pool.text? index with
  | some value => .ok value
  | none => .error (.undecodable origin (.noText index))

def className (index : Nat) : Except Failure ClassName :=
  match pool.nameIndex? PoolEntry.classTag index with
  | some nameIndex => (text pool origin nameIndex).map ClassName.ofInternal
  | none => .error (.undecodable origin (.noClass index))

/-- The number zero stands for no superclass. -/
def superclass (index : Nat) : Except Failure (Option ClassName) :=
  if index = 0 then .ok none else (className pool origin index).map some

def fieldType [Formats] (descriptor : String) : Except Failure JavaType :=
  (Descriptor.readField descriptor).mapError Failure.ofDescriptor

def methodType [Formats] (descriptor : String) : Except Failure (List JavaType × JavaType) :=
  (Descriptor.readMethod descriptor).mapError Failure.ofDescriptor

def annotationOf [Formats] (index : Nat) : Except Failure Annotation := do
  let descriptor ← text pool origin index
  match ← fieldType descriptor with
  | .named name => return ⟨name⟩
  | type => .error (.undecodable origin (.annotationType type))

-- ---------------------------------------------------------------------------
-- Members
-- ---------------------------------------------------------------------------

def field [Formats] (info : MemberInfo) : Except Failure Field := do
  let name ← text pool origin info.name
  let descriptor ← text pool origin info.descriptor
  let type ← fieldType descriptor
  return ⟨name, type, .ofFlags .field info.flags⟩

def method [Formats] (info : MemberInfo) : Except Failure Method := do
  let name ← text pool origin info.name
  let descriptor ← text pool origin info.descriptor
  let (params, result) ← methodType descriptor
  return ⟨name, params, result, .ofFlags .method info.flags⟩

/-- The fields and methods that the options ask for. All of them are decoded before any is left
out. -/
def members [Formats] (options : LoadOptions) (c : ClassFile) :
    Except Failure (List Field × List Method) :=
  if options.members then do
    let fields ← c.fields.mapM (field pool origin)
    let methods ← c.methods.mapM (method pool origin)
    return (fields.filter (options.keeps ·.modifiers), methods.filter (options.keeps ·.modifiers))
  else .ok ([], [])

-- ---------------------------------------------------------------------------
-- Classes
-- ---------------------------------------------------------------------------

/-- The declaration in a class file that was found at `origin`. -/
def declaration [Formats] (origin : String) (options : LoadOptions) (c : ClassFile) :
    Except Failure ClassDecl := do
  let name ← className c.pool origin c.thisClass
  let superclass ← superclass c.pool origin c.superClass
  let interfaces ← c.interfaces.mapM (className c.pool origin)
  let (fields, methods) ← members c.pool origin options c
  let annotations ← c.annotationTypes.mapM (annotationOf c.pool origin)
  return ⟨name, .ofFlags .classFlags c.flags, none, superclass, interfaces, fields, methods,
    annotations⟩

def decode [Formats] (origin : String) (options : LoadOptions) (bytes : Bytes) :
    Except Failure ClassDecl :=
  match Formats.classFile bytes with
  | .ok c => declaration origin options c
  | .error fault => .error (.undecodable origin (.classFile fault))

end ClassAtlas.ClassFile
