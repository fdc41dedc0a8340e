import ClassAtlas.Expr.Operator
import ClassAtlas.Member

/-!
# Nodes of expressions

The kinds of expressions, each with its operands left open. With slots for
operands a node is what an arena stores, with trees it is what a slot unfolds
to, and with results it is one step of a computation over a tree.
-/

namespace ClassAtlas

inductive Node (α : Type) where
  | binary (op : BinaryOp) (left right : α)
  | unary (op : UnaryOp) (operand : α)
  | cast (operand : α) (type : JavaType)
  | instanceOf (operand : α) (type : JavaType)
  | new (name : ClassName)
  | newArray (element : JavaType) (size : α)
  /-- Sizes for the leading dimensions only. -/
  | newMultiArray (type : ArrayType) (sizes : List α)
  | invoke (kind : InvokeKind) (method : MethodRef) (base : Option α) (args : List α)
deriving DecidableEq

namespace Node

variable {α β : Type}

/-- The operands in the order of their evaluation. -/
def operands : Node α → List α
  | binary _ left right => [left, right]
  | unary _ operand => [operand]
  | cast operand _ => [operand]
  | instanceOf operand _ => [operand]
  | new _ => []
  | newArray _ size => [size]
  | newMultiArray _ sizes => sizes
  | invoke _ _ base args => base.toList ++ args

def map (f : α → β) : Node α → Node β
  | binary op left right => .binary op (f left) (f right)
  | unary op operand => .unary op (f operand)
  | cast operand type => .cast (f operand) type
  | instanceOf operand type => .instanceOf (f operand) type
  | new name => .new name
  | newArray element size => .newArray element (f size)
  | newMultiArray type sizes => .newMultiArray type (sizes.map f)
  | invoke kind method base args => .invoke kind method (base.map f) (args.map f)

@[simp] theorem operands_map (f : α → β) (n : Node α) :
    (n.map f).operands = n.operands.map f := by
  cases n with
  | invoke kind method base args => cases base <;> simp [map, operands]
  | _ => simp [map, operands]

@[simp] theorem map_id (n : Node α) : n.map id = n := by
  cases n <;> simp [map]

@[simp] theorem map_map {γ : Type} (f : α → β) (g : β → γ) (n : Node α) :
    (n.map f).map g = n.map (g ∘ f) := by
  cases n <;> simp [map, Option.map_map]

/-- What messages call a node of this kind. -/
def kindName : Node α → String
  | binary .. => "binary expression"
  | unary .. => "unary expression"
  | cast .. => "cast expression"
  | instanceOf .. => "instanceof expression"
  | new .. => "new expression"
  | newArray .. => "newarray expression"
  | newMultiArray .. => "newmultiarray expression"
  | invoke .. => "invoke expression"

end Node

end ClassAtlas
