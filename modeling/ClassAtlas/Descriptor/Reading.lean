import ClassAtlas.Formats

/-!
# Reading descriptors

The types in the descriptors of fields and methods, as the formats have them.
-/

namespace ClassAtlas.Descriptor

variable [Formats]

def readField (text : String) : Except InvalidDescriptor JavaType :=
  match (Formats.typeDescriptor text).bind TypeDescriptor.valueType? with
  | some type => .ok type
  | none => .error ⟨text⟩

/-- The types of the parameters and of the result. -/
def readMethod (text : String) : Except InvalidDescriptor (List JavaType × JavaType) :=
  match (Formats.methodDescriptor text).bind MethodDescriptor.types? with
  | some types => .ok types
  | none => .error ⟨text⟩

end ClassAtlas.Descriptor
