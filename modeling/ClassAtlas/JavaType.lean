import ClassAtlas.ClassName

/-!
# Types

The types that values and members have. An array type is held flat: a base
that is no array, and how many dimensions stand over it, so that no array type
is written in two ways.
-/

namespace ClassAtlas

-- ---------------------------------------------------------------------------
-- Primitive types
-- ---------------------------------------------------------------------------

inductive Primitive where
  | boolean
  | byte
  | char
  | short
  | int
  | long
  | float
  | double
deriving DecidableEq, Inhabited

namespace Primitive

def all : List Primitive := [boolean, byte, char, short, int, long, float, double]

def name : Primitive → String
  | boolean => "boolean"
  | byte => "byte"
  | char => "char"
  | short => "short"
  | int => "int"
  | long => "long"
  | float => "float"
  | double => "double"

def ofName? (name : String) : Option Primitive :=
  all.find? (·.name == name)

/-- The types that a value of this type widens to without a cast, itself included. -/
def widenings : Primitive → List Primitive
  | boolean => [boolean]
  | byte => [byte, short, int, long, float, double]
  | char => [char, int, long, float, double]
  | short => [short, int, long, float, double]
  | int => [int, long, float, double]
  | long => [long, float, double]
  | float => [float, double]
  | double => [double]

def widensTo (p q : Primitive) : Bool :=
  p.widenings.contains q

end Primitive

-- ---------------------------------------------------------------------------
-- All types
-- ---------------------------------------------------------------------------

/-- What stands under the dimensions of an array. -/
inductive BaseType where
  | primitive (p : Primitive)
  | named (c : ClassName)
deriving DecidableEq, Inhabited

structure ArrayType where
  base : BaseType
  /-- Counted in 32 bits. A sum that does not fit starts again from zero. -/
  dimensions : UInt32
deriving DecidableEq

inductive JavaType where
  | primitive (p : Primitive)
  | named (c : ClassName)
  | array (a : ArrayType)
  /-- The type of the null reference. -/
  | null
  | void
  /-- The type of a value whose type cannot be told. -/
  | unknown
deriving DecidableEq, Inhabited

def BaseType.type : BaseType → JavaType
  | primitive p => .primitive p
  | named c => .named c

-- ---------------------------------------------------------------------------
-- Text
-- ---------------------------------------------------------------------------

def BaseType.text : BaseType → String
  | primitive p => p.name
  | named c => c.dotted

/-- One pair of brackets a dimension. -/
def brackets : Nat → String
  | 0 => ""
  | n + 1 => "[]" ++ brackets n

def ArrayType.text (a : ArrayType) : String :=
  a.base.text ++ brackets a.dimensions.toNat

namespace JavaType

def text : JavaType → String
  | primitive p => p.name
  | named c => c.dotted
  | array a => a.text
  | null => "null_type"
  | void => "void"
  | unknown => "unknown"

/-- The fixed hash code of the null type. -/
def nullHash : Nat := 0x9891DFE1

/-- Whether a value of the type is a reference, the null reference included. -/
def isReferenceLike : JavaType → Bool
  | named _ | array _ | null => true
  | _ => false

end JavaType

end ClassAtlas
