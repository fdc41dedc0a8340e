import ClassAtlas.Expr.Arena
import ClassAtlas.JavaType.Array

/-!
# Types of expressions
-/

namespace ClassAtlas

namespace Primitive

/-- The wider of two types of arithmetic. Whatever is narrower than int counts as int. -/
def widest : Primitive → Primitive → Primitive
  | _, double => double
  | double, float => double
  | _, float => float
  | int, long => long
  | p, _ => p

end Primitive

namespace JavaType

/-- The type of arithmetic on operands of the given types, at least `widest`; unknown if an operand
is no number. -/
def promoteFrom (widest : Primitive) : List JavaType → JavaType
  | [] => .primitive widest
  | .primitive .boolean :: _ => .unknown
  | .primitive p :: types => promoteFrom (widest.widest p) types
  | _ :: _ => .unknown

/-- The type of arithmetic on operands of the given types. -/
def promote (types : List JavaType) : JavaType :=
  promoteFrom .int types

end JavaType

/-- The type of the result for operands of the given types. -/
def BinaryOp.resultType (op : BinaryOp) (left right : JavaType) : JavaType :=
  match op with
  | .cmp | .cmpg | .cmpl => .primitive .int
  | .eq | .ne | .lt | .le | .gt | .ge => .primitive .boolean
  | .shl | .shr | .ushr => .promote [left]
  | .and | .or | .xor =>
    if left = .primitive .boolean ∧ right = .primitive .boolean then .primitive .boolean
    else .promote [left, right]
  | .add | .sub | .mul | .div | .rem => .promote [left, right]

def UnaryOp.resultType (op : UnaryOp) (operand : JavaType) : JavaType :=
  match op with
  | .neg => .promote [operand]
  | .length => .primitive .int

/-- The type of an expression over operands of the given types. -/
def Node.resultType : Node JavaType → JavaType
  | .binary op left right => op.resultType left right
  | .unary op operand => op.resultType operand
  | .cast _ type => type
  | .instanceOf _ _ => .primitive .boolean
  | .new name => .named name
  | .newArray element _ =>
    match element.arrayOf with
    | .ok type => type
    | .error _ => .unknown
  | .newMultiArray type _ => .array type
  | .invoke _ method _ _ => method.result

def Tree.type : Tree → JavaType :=
  fold Leaf.type fun n => (n.map (·.2)).resultType

def Arena.type (a : Arena) (v : Value) : JavaType :=
  (a.tree v).type

end ClassAtlas
