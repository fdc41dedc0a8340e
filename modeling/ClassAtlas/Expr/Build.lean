import ClassAtlas.Expr.Arena
import ClassAtlas.JavaType.Array

/-!
# Building and changing expressions

An expression is built from a node over values: the shape of the node is
checked, then every operand goes into a slot of its own. The value in a slot
can be replaced by any value that does not use the slot itself.
-/

namespace ClassAtlas

-- ---------------------------------------------------------------------------
-- What can be wrong
-- ---------------------------------------------------------------------------

inductive ExprError where
  | castTo (type : JavaType)
  | instanceOf (type : JavaType)
  | arrayOf (element : JavaType)
  | tooManySizes (given : Nat) (type : ArrayType)
  | base (kind : InvokeKind) (method : MethodRef)
  | arguments (method : MethodRef) (given : Nat)
  | foreignSlot (slot : Slot)
  | containsItself (slot : Slot)
  | noOperand (index : Nat) (kindName : String)
deriving DecidableEq

def ExprError.reason : ExprError → String
  | castTo type => "cannot cast to " ++ type.text
  | instanceOf type => "instanceof needs a reference type, got " ++ type.text
  | arrayOf element => "cannot allocate an array of " ++ element.text
  | tooManySizes given type =>
    toString given ++ " sizes given for " ++ toString type.dimensions ++
      "-dimensional array type " ++ type.text
  | base kind method =>
    kind.keyword ++ " of " ++ method.text ++
      (if kind.hasBase then " requires" else " must not have") ++ " a base"
  | arguments method given =>
    method.text ++ " takes " ++ toString method.params.length ++ " arguments, " ++
      toString given ++ " given"
  | foreignSlot slot => slot.text ++ " does not belong to this arena"
  | containsItself slot => slot.text ++ " cannot contain itself"
  | noOperand index kindName =>
    "operand index " ++ toString index ++ " out of range for " ++ kindName

def ExprError.message (e : ExprError) : String :=
  "malformed expression: " ++ e.reason

-- ---------------------------------------------------------------------------
-- Shapes
-- ---------------------------------------------------------------------------

/-- Whether values of the type can be stored: not void, null or unknown. -/
def JavaType.isStorable : JavaType → Bool
  | .void | .null | .unknown => false
  | _ => true

/-- Whether the type is that of objects: a class or an array. -/
def JavaType.isReference : JavaType → Bool
  | .named _ | .array _ => true
  | _ => false

/-- What is wrong with the shape of a node, whatever its operands are. -/
def Node.fault? {α : Type} : Node α → Option ExprError
  | .cast _ type => if type.isStorable then none else some (.castTo type)
  | .instanceOf _ type => if type.isReference then none else some (.instanceOf type)
  | .newArray element _ => if element.isStorable then none else some (.arrayOf element)
  | .newMultiArray type sizes =>
    if sizes.length ≤ type.dimensions.toNat then none else some (.tooManySizes sizes.length type)
  | .invoke kind method base args =>
    if kind.hasBase ≠ base.isSome then some (.base kind method)
    else if args.length ≠ method.params.length then some (.arguments method args.length)
    else none
  | .binary .. | .unary .. | .new .. => none

/-- The slot of one operand. -/
def Node.operandSlot (n : Node Slot) (index : Nat) : Except ExprError Slot :=
  match n.operands[index]? with
  | some slot => .ok slot
  | none => .error (.noOperand index n.kindName)

-- ---------------------------------------------------------------------------
-- Changes of an arena
-- ---------------------------------------------------------------------------

namespace Arena

/-- Puts every operand into a slot of its own, in the order of the operands. -/
def store (a : Arena) (n : Node Value) : Node Slot × Arena :=
  n.mapState (fun v a => a.push v) a

def build (a : Arena) (n : Node Value) : Except ExprError (Node Slot × Arena) :=
  match n.fault? with
  | some fault => .error fault
  | none => .ok (a.store n)

/-- Replaces the value in a slot and gives the one it held before. -/
def replace (a : Arena) (s : Slot) (v : Value) : Except ExprError (Value × Arena) :=
  match a.get? s with
  | none => .error (.foreignSlot s)
  | some old =>
    if s ∈ a.uses v then .error (.containsItself s) else .ok (old, a.set s v)

/-- Replaces one operand of an expression under everyone who uses it. -/
def replaceOperand (a : Arena) (n : Node Slot) (index : Nat) (v : Value) :
    Except ExprError (Value × Arena) :=
  match n.operandSlot index with
  | .ok slot => a.replace slot v
  | .error e => .error e

end Arena

end ClassAtlas
