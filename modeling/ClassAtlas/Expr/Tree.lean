import ClassAtlas.Expr.Leaf
import ClassAtlas.Expr.Node

/-!
# Expression trees

A value as the finite tree that it stands for, every operand marked with the
slot that holds it. Whatever is computed from a value is one fold over its
tree.
-/

namespace ClassAtlas

/-- A place in an arena. It stays the same place when its value is replaced. -/
structure Slot where
  index : Nat
deriving DecidableEq, Inhabited

def Slot.text (s : Slot) : String :=
  "box#" ++ toString s.index

inductive Tree where
  | leaf (l : Leaf)
  | node (n : Node (Slot × Tree))

namespace Tree

variable {β : Type}

-- ---------------------------------------------------------------------------
-- Folding
-- ---------------------------------------------------------------------------

mutual

/-- The result at a node from the results at its operands. -/
def fold (leaf : Leaf → β) (node : Node (Slot × β) → β) : Tree → β
  | .leaf l => leaf l
  | .node n => node (foldNode leaf node n)

def foldNode (leaf : Leaf → β) (node : Node (Slot × β) → β) :
    Node (Slot × Tree) → Node (Slot × β)
  | .binary op (i, left) (j, right) =>
    .binary op (i, fold leaf node left) (j, fold leaf node right)
  | .unary op (i, operand) => .unary op (i, fold leaf node operand)
  | .cast (i, operand) type => .cast (i, fold leaf node operand) type
  | .instanceOf (i, operand) type => .instanceOf (i, fold leaf node operand) type
  | .new name => .new name
  | .newArray element (i, size) => .newArray element (i, fold leaf node size)
  | .newMultiArray type sizes => .newMultiArray type (foldList leaf node sizes)
  | .invoke kind method base args =>
    .invoke kind method (foldOption leaf node base) (foldList leaf node args)

def foldList (leaf : Leaf → β) (node : Node (Slot × β) → β) :
    List (Slot × Tree) → List (Slot × β)
  | [] => []
  | (i, t) :: ts => (i, fold leaf node t) :: foldList leaf node ts

def foldOption (leaf : Leaf → β) (node : Node (Slot × β) → β) :
    Option (Slot × Tree) → Option (Slot × β)
  | none => none
  | some (i, t) => some (i, fold leaf node t)

end

theorem foldList_eq_map (leaf : Leaf → β) (node : Node (Slot × β) → β)
    (ts : List (Slot × Tree)) :
    foldList leaf node ts = ts.map fun t => (t.1, fold leaf node t.2) := by
  induction ts with
  | nil => rfl
  | cons t ts ih => simp [foldList, ih]

theorem foldOption_eq_map (leaf : Leaf → β) (node : Node (Slot × β) → β)
    (t : Option (Slot × Tree)) :
    foldOption leaf node t = t.map fun t => (t.1, fold leaf node t.2) := by
  cases t <;> rfl

theorem foldNode_eq_map (leaf : Leaf → β) (node : Node (Slot × β) → β)
    (n : Node (Slot × Tree)) :
    foldNode leaf node n = n.map fun t => (t.1, fold leaf node t.2) := by
  cases n <;> simp [foldNode, Node.map, foldList_eq_map, foldOption_eq_map]

@[simp] theorem fold_leaf (leaf : Leaf → β) (node : Node (Slot × β) → β) (l : Leaf) :
    fold leaf node (.leaf l) = leaf l := rfl

@[simp] theorem fold_node (leaf : Leaf → β) (node : Node (Slot × β) → β)
    (n : Node (Slot × Tree)) :
    fold leaf node (.node n) = node (n.map fun t => (t.1, fold leaf node t.2)) := by
  rw [fold, foldNode_eq_map]

-- ---------------------------------------------------------------------------
-- Slots
-- ---------------------------------------------------------------------------

/-- The slots of a node's operands, then those under each operand. -/
def nodeUses (n : Node (Slot × List Slot)) : List Slot :=
  n.operands.map (·.1) ++ n.operands.flatMap (·.2)

/-- Every slot read under the root, once for each way that leads to it. -/
def uses : Tree → List Slot :=
  fold (fun _ => []) nodeUses

end Tree

end ClassAtlas
