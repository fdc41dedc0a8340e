import ClassAtlas.JavaType

/-!
# Array types

Building array types and taking their dimensions off again.
-/

namespace ClassAtlas

/-- Why an operation on types has no result. -/
inductive TypeError where
  | noDimensions (element : JavaType)
  | notAnElement (element : JavaType)
  | notSoManyDimensions (count : UInt32) (array : ArrayType)
  | notAnArray (type : JavaType)
deriving DecidableEq

def TypeError.reason : TypeError → String
  | noDimensions element => "array of " ++ element.text ++ " needs at least one dimension"
  | notAnElement element => "cannot build an array of " ++ element.text
  | notSoManyDimensions count array =>
    "cannot strip " ++ toString count ++ " dimensions from " ++ array.text
  | notAnArray type => "attempt to get array element type of non-array type " ++ type.text

def TypeError.message (e : TypeError) : String :=
  "invalid type operation: " ++ e.reason

namespace ArrayType

/-- `dimensions` more dimensions over `element`, which may be an array itself. -/
def of (element : JavaType) (dimensions : UInt32) : Except TypeError ArrayType :=
  if dimensions = 0 then .error (.noDimensions element)
  else
    match element with
    | .primitive p => .ok ⟨.primitive p, dimensions⟩
    | .named c => .ok ⟨.named c, dimensions⟩
    | .array a => .ok ⟨a.base, a.dimensions + dimensions⟩
    | other => .error (.notAnElement other)

/-- The type of the array's elements. -/
def element (a : ArrayType) : JavaType :=
  if a.dimensions = 1 then a.base.type else .array ⟨a.base, a.dimensions - 1⟩

/-- What is left under `count` dimensions. -/
def under (a : ArrayType) (count : UInt32) : Except TypeError JavaType :=
  if a.dimensions < count then .error (.notSoManyDimensions count a)
  else if count = a.dimensions then .ok a.base.type
  else .ok (.array ⟨a.base, a.dimensions - count⟩)

end ArrayType

namespace JavaType

def arrayOf (t : JavaType) : Except TypeError JavaType :=
  (ArrayType.of t 1).map .array

def element : JavaType → Except TypeError JavaType
  | array a => .ok a.element
  | t => .error (.notAnArray t)

end JavaType

end ClassAtlas
