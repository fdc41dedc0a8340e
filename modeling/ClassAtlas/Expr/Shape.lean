import ClassAtlas.Expr.Arena

/-!
# Structural equality of expressions

The shape of an expression is its tree without the slots. The sizes given to a
new array of several dimensions count, but what they are does not matter.
Shapes taken from different arenas can be compared.
-/

namespace ClassAtlas

/-- A node without its operands. -/
inductive Head where
  | binary (op : BinaryOp)
  | unary (op : UnaryOp)
  | cast (type : JavaType)
  | instanceOf (type : JavaType)
  | new (name : ClassName)
  | newArray (element : JavaType)
  | newMultiArray (type : ArrayType) (sizes : Nat)
  | invoke (kind : InvokeKind) (method : MethodRef) (base : Bool)
deriving DecidableEq

def Node.head {α : Type} : Node α → Head
  | .binary op _ _ => .binary op
  | .unary op _ => .unary op
  | .cast _ type => .cast type
  | .instanceOf _ type => .instanceOf type
  | .new name => .new name
  | .newArray element _ => .newArray element
  | .newMultiArray type sizes => .newMultiArray type sizes.length
  | .invoke kind method base _ => .invoke kind method base.isSome

inductive Shape where
  | leaf (l : Leaf)
  | node (head : Head) (operands : List Shape)

namespace Shape

-- ---------------------------------------------------------------------------
-- Equality
-- ---------------------------------------------------------------------------

mutual

def decEq : (a b : Shape) → Decidable (a = b)
  | .leaf l, .leaf m => decidable_of_iff (l = m) (by simp)
  | .leaf _, .node .. => isFalse (by simp)
  | .node .., .leaf _ => isFalse (by simp)
  | .node h ss, .node k ts =>
    have := decEqList ss ts
    decidable_of_iff (h = k ∧ ss = ts) (by simp)

def decEqList : (ss ts : List Shape) → Decidable (ss = ts)
  | [], [] => isTrue rfl
  | [], _ :: _ => isFalse (by simp)
  | _ :: _, [] => isFalse (by simp)
  | s :: ss, t :: ts =>
    have := decEq s t
    have := decEqList ss ts
    decidable_of_iff (s = t ∧ ss = ts) (by simp)

end

instance : DecidableEq Shape := decEq

end Shape

-- ---------------------------------------------------------------------------
-- Shapes of values
-- ---------------------------------------------------------------------------

/-- The operands that a shape keeps. -/
def Node.shapeOperands {α : Type} : Node α → List α
  | .newMultiArray _ _ => []
  | n => n.operands

def Tree.shape : Tree → Shape :=
  fold .leaf fun n => .node n.head (n.shapeOperands.map (·.2))

namespace Arena

def shape (a : Arena) (v : Value) : Shape :=
  (a.tree v).shape

/-- Whether two values of the arena have one shape. -/
def equivalent (a : Arena) (v w : Value) : Bool :=
  a.shape v == a.shape w

end Arena

end ClassAtlas
