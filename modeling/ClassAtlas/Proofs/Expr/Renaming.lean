import ClassAtlas.Expr.Printing
import ClassAtlas.Expr.Typing
import ClassAtlas.Proofs.Expr.Traversal
import Mathlib.Data.List.Basic

/-!
# Trees with other slots

The slots at the edges of a tree say where its parts are kept. Of all that is
computed from a tree only the list of its slots depends on them.
-/

namespace ClassAtlas

namespace Tree

variable {β : Type}

/-- The tree with other slots at its edges. -/
def rename (f : Slot → Slot) (t : Tree) : Tree :=
  t.fold .leaf fun n => .node (n.map fun t => (f t.1, t.2))

@[simp] theorem rename_leaf (f : Slot → Slot) (l : Leaf) : (leaf l).rename f = .leaf l := rfl

@[simp] theorem rename_node (f : Slot → Slot) (n : Node (Slot × Tree)) :
    (node n).rename f = .node (n.map fun t => (f t.1, t.2.rename f)) := by
  rw [rename, fold_node, Node.map_map]
  rfl

theorem uses_rename (f : Slot → Slot) (t : Tree) : (t.rename f).uses = t.uses.map f := by
  induction t using Tree.induction with
  | leaf l => rfl
  | node n ih =>
    have hbelow : n.operands.flatMap (fun t => (t.2.rename f).uses) =
        n.operands.flatMap fun t => t.2.uses.map f :=
      List.flatMap_congr ih
    simp [Function.comp_def, List.flatMap_map, List.map_flatMap, hbelow]

/-- What is computed from the operands' results alone does not depend on the slots. -/
theorem fold_rename (leaf : Leaf → β) (node : Node β → β) (f : Slot → Slot) (t : Tree) :
    (t.rename f).fold leaf (fun n => node (n.map (·.2))) =
      t.fold leaf fun n => node (n.map (·.2)) := by
  induction t using Tree.induction with
  | leaf l => rfl
  | node n ih =>
    rw [rename_node, fold_node, fold_node, Node.map_map, Node.map_map, Node.map_map]
    exact congrArg node (Node.map_congr ih)

@[simp] theorem type_rename (f : Slot → Slot) (t : Tree) : (t.rename f).type = t.type :=
  fold_rename Leaf.type Node.resultType f t

@[simp] theorem print_rename {σ : Type} (sink : Sink σ) (f : Slot → Slot) (t : Tree) :
    (t.rename f).print sink = t.print sink :=
  fold_rename sink.leaf sink.node f t

@[simp] theorem shape_rename (f : Slot → Slot) (t : Tree) : (t.rename f).shape = t.shape := by
  have h := fold_rename Shape.leaf (fun n => .node n.head n.shapeOperands) f t
  simp only [Node.head_map, Node.shapeOperands_map] at h
  exact h

@[simp] theorem events_rename (f : Slot → Slot) (t : Tree) : (t.rename f).events = t.events := by
  rw [events, print_rename, events]

@[simp] theorem text_rename (style : NameStyle) (f : Slot → Slot) (t : Tree) :
    (t.rename f).text style = t.text style := by
  rw [text, print_rename, text]

end Tree

end ClassAtlas
