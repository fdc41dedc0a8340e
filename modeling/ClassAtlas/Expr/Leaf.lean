import ClassAtlas.Decimal.Text
import ClassAtlas.JavaType
import ClassAtlas.Text.Literal

/-!
# Leaves of expressions

Constants and local variables: the values without operands. Floating point
constants are held as bit patterns, so equality tells the two zeros apart and
takes every NaN for itself.
-/

namespace ClassAtlas

-- ---------------------------------------------------------------------------
-- Constants
-- ---------------------------------------------------------------------------

inductive Constant where
  | int (value : Int32)
  | long (value : Int64)
  | float (bits : UInt32)
  | double (bits : UInt64)
  | string (value : String)
  /-- The object that stands for a class or array type. -/
  | classOf (type : JavaType)
  | null
deriving DecidableEq, Inhabited

namespace Constant

def type : Constant → JavaType
  | int _ => .primitive .int
  | long _ => .primitive .long
  | float _ => .primitive .float
  | double _ => .primitive .double
  | string _ => .named .string
  | classOf _ => .named .classObject
  | null => .null

def text : Constant → String
  | int value => toString value.toInt
  | long value => toString value.toInt ++ "L"
  | float bits => Decimal.singleText bits ++ "F"
  | double bits => Decimal.doubleText bits
  | string value => Text.literal value
  | classOf type => "class \"" ++ type.text ++ "\""
  | null => "null"

end Constant

-- ---------------------------------------------------------------------------
-- Local variables
-- ---------------------------------------------------------------------------

/-- A named and typed variable of a method body. -/
structure Local where
  name : String
  type : JavaType
  annotations : List Annotation
deriving DecidableEq, Inhabited

-- ---------------------------------------------------------------------------
-- Leaves
-- ---------------------------------------------------------------------------

inductive Leaf where
  | var (l : Local)
  | const (c : Constant)
deriving DecidableEq, Inhabited

def Leaf.type : Leaf → JavaType
  | var l => l.type
  | const c => c.type

end ClassAtlas
