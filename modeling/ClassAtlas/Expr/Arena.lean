import ClassAtlas.Expr.Tree

/-!
# Arenas

The use slots of one method body. A value names its operands by slots, so the
value in a slot can be replaced under everyone who uses it. Slots are never
given up.
-/

namespace ClassAtlas

/-- Equality of values tells expressions apart by their slots; `Arena.shape` compares what they
stand for. -/
inductive Value where
  | leaf (l : Leaf)
  | expr (n : Node Slot)
deriving DecidableEq

instance : Inhabited Value := ⟨.leaf (.const .null)⟩

/-- The slots of a value's own operands. -/
def Value.operands : Value → List Slot
  | leaf _ => []
  | expr n => n.operands

structure Arena where
  slots : List Value
deriving DecidableEq

namespace Arena

def empty : Arena := ⟨[]⟩

instance : Inhabited Arena := ⟨empty⟩

def size (a : Arena) : Nat :=
  a.slots.length

-- ---------------------------------------------------------------------------
-- Slots
-- ---------------------------------------------------------------------------

def get? (a : Arena) (s : Slot) : Option Value :=
  a.slots[s.index]?

/-- The value in a slot; a slot of another arena holds null. -/
def get (a : Arena) (s : Slot) : Value :=
  (a.get? s).getD default

/-- A fresh slot for the value. -/
def push (a : Arena) (v : Value) : Slot × Arena :=
  (⟨a.size⟩, ⟨a.slots ++ [v]⟩)

def set (a : Arena) (s : Slot) (v : Value) : Arena :=
  ⟨a.slots.set s.index v⟩

@[simp] theorem size_push (a : Arena) (v : Value) : (a.push v).2.size = a.size + 1 := by
  simp [push, size]

@[simp] theorem size_set (a : Arena) (s : Slot) (v : Value) : (a.set s v).size = a.size := by
  simp [set, size]

theorem get?_push_self (a : Arena) (v : Value) : (a.push v).2.get? (a.push v).1 = some v := by
  simp [push, get?, size]

theorem get?_push_of_lt (a : Arena) (v : Value) {s : Slot} (h : s.index < a.size) :
    (a.push v).2.get? s = a.get? s := by
  simp only [size] at h
  simp [push, get?, List.getElem?_append, h]

theorem get?_set_self (a : Arena) {s : Slot} (v : Value) (h : s.index < a.size) :
    (a.set s v).get? s = some v := by
  simp only [size] at h
  simp [set, get?, h]

theorem get?_set_of_ne (a : Arena) {s t : Slot} (v : Value) (h : s ≠ t) :
    (a.set s v).get? t = a.get? t := by
  have hi : s.index ≠ t.index := fun e => h (by cases s; cases t; simpa using e)
  simp [set, get?, List.getElem?_set_ne hi]

-- ---------------------------------------------------------------------------
-- Unfolding
-- ---------------------------------------------------------------------------

/-- The tree of a value, cut off with null below `fuel` expressions. -/
def unfold (a : Arena) : Nat → Value → Tree
  | _, .leaf l => .leaf l
  | 0, .expr _ => .leaf (.const .null)
  | fuel + 1, .expr n => .node (n.map fun s => (s, a.unfold fuel (a.get s)))

/-- The tree of a value. Without a cycle no way down meets a slot twice, so nothing is cut off. -/
def tree (a : Arena) (v : Value) : Tree :=
  a.unfold (a.size + 1) v

/-- Every slot read under the value: those of its operands, then those under each of them. -/
def uses (a : Arena) (v : Value) : List Slot :=
  (a.tree v).uses

end Arena

-- ---------------------------------------------------------------------------
-- Passing an arena along
-- ---------------------------------------------------------------------------

namespace Node

variable {α β σ : Type}

def mapList (f : α → σ → β × σ) : List α → σ → List β × σ
  | [], s => ([], s)
  | x :: xs, s =>
    match f x s with
    | (y, s) =>
      match mapList f xs s with
      | (ys, s) => (y :: ys, s)

def mapOption (f : α → σ → β × σ) : Option α → σ → Option β × σ
  | none, s => (none, s)
  | some x, s =>
    match f x s with
    | (y, s) => (some y, s)

/-- Replaces the operands one after the other, passing a state from each to the next. -/
def mapState (f : α → σ → β × σ) : Node α → σ → Node β × σ
  | binary op left right, s =>
    match f left s with
    | (left, s) =>
      match f right s with
      | (right, s) => (.binary op left right, s)
  | unary op operand, s =>
    match f operand s with
    | (operand, s) => (.unary op operand, s)
  | cast operand type, s =>
    match f operand s with
    | (operand, s) => (.cast operand type, s)
  | instanceOf operand type, s =>
    match f operand s with
    | (operand, s) => (.instanceOf operand type, s)
  | new name, s => (.new name, s)
  | newArray element size, s =>
    match f size s with
    | (size, s) => (.newArray element size, s)
  | newMultiArray type sizes, s =>
    match mapList f sizes s with
    | (sizes, s) => (.newMultiArray type sizes, s)
  | invoke kind method base args, s =>
    match mapOption f base s with
    | (base, s) =>
      match mapList f args s with
      | (args, s) => (.invoke kind method base args, s)

end Node

-- ---------------------------------------------------------------------------
-- Copies
-- ---------------------------------------------------------------------------

/-- A fresh slot for what `copy` writes. -/
def Tree.graftOperand (copy : Arena → Value × Arena) (a : Arena) : Slot × Arena :=
  match copy a with
  | (v, a) => a.push v

/-- Writes a tree into an arena with a slot of its own for every operand. An operand's own
operands get their slots first. -/
def Tree.graft : Tree → Arena → Value × Arena :=
  fold (fun l a => (.leaf l, a)) fun n a =>
    match n.mapState (fun operand a => graftOperand operand.2 a) a with
    | (n, a) => (.expr n, a)

/-- A copy of the value that shares no slot with it. -/
def Arena.copy (a : Arena) (v : Value) : Value × Arena :=
  (a.tree v).graft a

end ClassAtlas
