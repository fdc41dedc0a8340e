import ClassAtlas.Expr.Printing
import ClassAtlas.Expr.Typing
import ClassAtlas.Proofs.Expr.Traversal
import Mathlib.Data.Finset.Card
import Mathlib.Data.Finset.Range
import Mathlib.Logic.Relation

/-!
# Arenas without cycles

As long as no slot leads back to itself, the tree of a value is complete: it
is made of the trees of what the operands' slots hold, down to the leaves, and
nothing is cut off. Everything that is computed from trees is then computed
slot by slot.
-/

namespace ClassAtlas

open Relation

namespace Arena

variable {a : Arena}

theorem get_of_get? {s : Slot} {v : Value} (h : a.get? s = some v) : a.get s = v := by
  rw [get, h]
  rfl

theorem get_of_size_le {s : Slot} (h : a.size ≤ s.index) : a.get s = .leaf (.const .null) := by
  have hnone : a.get? s = none := List.getElem?_eq_none h
  rw [get, hnone]
  rfl

theorem get?_eq_some_get {s : Slot} (h : s.index < a.size) : a.get? s = some (a.get s) := by
  have hget : a.get? s = some a.slots[s.index] := List.getElem?_eq_getElem h
  rw [hget, get_of_get? hget]

theorem lt_size_of_get? {s : Slot} {v : Value} (h : a.get? s = some v) : s.index < a.size :=
  (List.getElem?_eq_some_iff.mp h).1

-- ---------------------------------------------------------------------------
-- Ways down
-- ---------------------------------------------------------------------------

/-- The slot holds an expression with this operand. -/
def Reads (a : Arena) (s t : Slot) : Prop :=
  ∃ v, a.get? s = some v ∧ t ∈ v.operands

/-- A way down from the value comes to the slot. -/
def Reaches (a : Arena) (v : Value) (t : Slot) : Prop :=
  ∃ s ∈ v.operands, ReflTransGen a.Reads s t

def Acyclic (a : Arena) : Prop :=
  ∀ s, ¬ TransGen a.Reads s s

theorem reads_iff {s t : Slot} : a.Reads s t ↔ t ∈ (a.get s).operands := by
  constructor
  · rintro ⟨v, hv, ht⟩
    rwa [get_of_get? hv]
  · intro ht
    by_cases hs : s.index < a.size
    · exact ⟨a.get s, get?_eq_some_get hs, ht⟩
    · rw [get_of_size_le (Nat.le_of_not_lt hs)] at ht
      cases ht

theorem reflTransGen_iff_eq_or_reaches {s t : Slot} :
    ReflTransGen a.Reads s t ↔ s = t ∨ a.Reaches (a.get s) t := by
  constructor
  · intro h
    rcases h.cases_head with rfl | ⟨u, hu, hrest⟩
    · exact .inl rfl
    · exact .inr ⟨u, reads_iff.mp hu, hrest⟩
  · rintro (rfl | ⟨u, hu, hrest⟩)
    · exact .refl
    · exact .head (reads_iff.mpr hu) hrest

/-- What a value reaches: its operands, and what they reach in turn. -/
theorem reaches_iff {v : Value} {t : Slot} :
    a.Reaches v t ↔ t ∈ v.operands ∨ ∃ s ∈ v.operands, a.Reaches (a.get s) t := by
  constructor
  · rintro ⟨s, hs, hst⟩
    rcases reflTransGen_iff_eq_or_reaches.mp hst with rfl | h
    · exact .inl hs
    · exact .inr ⟨s, hs, h⟩
  · rintro (h | ⟨s, hs, h⟩)
    · exact ⟨t, h, .refl⟩
    · exact ⟨s, hs, reflTransGen_iff_eq_or_reaches.mpr (.inr h)⟩

@[simp] theorem not_reaches_leaf (l : Leaf) (t : Slot) : ¬ a.Reaches (.leaf l) t := by
  rintro ⟨s, hs, _⟩
  cases hs

/-- Without a cycle no slot is met again below itself. -/
theorem Acyclic.not_reaches_get (ha : a.Acyclic) (s : Slot) : ¬ a.Reaches (a.get s) s := by
  rintro ⟨t, ht, hts⟩
  exact ha s (.head' (reads_iff.mpr ht) hts)

-- ---------------------------------------------------------------------------
-- Depth
-- ---------------------------------------------------------------------------

open Classical in
/-- The indices of the slots that a value reaches. -/
noncomputable def below (a : Arena) (v : Value) : Finset Nat :=
  (Finset.range a.size).filter fun i => a.Reaches v ⟨i⟩

theorem mem_below {v : Value} {i : Nat} : i ∈ a.below v ↔ i < a.size ∧ a.Reaches v ⟨i⟩ := by
  simp [below]

theorem card_below_le (a : Arena) (v : Value) : (a.below v).card ≤ a.size := by
  have hrange : a.below v ⊆ Finset.range a.size := fun i hi =>
    Finset.mem_range.mpr (mem_below.mp hi).1
  exact (Finset.card_le_card hrange).trans_eq (Finset.card_range _)

/-- Fewer slots are below an operand than below the expression. -/
theorem Acyclic.card_below_lt (ha : a.Acyclic) {v : Value} {s : Slot} (hs : s ∈ v.operands)
    (hsize : s.index < a.size) : (a.below (a.get s)).card < (a.below v).card := by
  refine Finset.card_lt_card (Finset.ssubset_iff_subset_ne.mpr ⟨?_, ?_⟩)
  · intro i hi
    rw [mem_below] at hi ⊢
    exact ⟨hi.1, reaches_iff.mpr (.inr ⟨s, hs, hi.2⟩)⟩
  · intro heq
    have hmem : s.index ∈ a.below v := mem_below.mpr ⟨hsize, reaches_iff.mpr (.inl hs)⟩
    rw [← heq] at hmem
    exact ha.not_reaches_get s (mem_below.mp hmem).2

/-- From the values of the operands to that of the expression. -/
theorem Acyclic.induction (ha : a.Acyclic) {P : Value → Prop} (leaf : ∀ l, P (.leaf l))
    (expr : ∀ n : Node Slot, (∀ s ∈ n.operands, P (a.get s)) → P (.expr n)) (v : Value) : P v := by
  induction h : (a.below v).card using Nat.strong_induction_on generalizing v with
  | _ k ih =>
    cases v with
    | leaf l => exact leaf l
    | expr n =>
      refine expr n fun s hs => ?_
      by_cases hsize : s.index < a.size
      · exact ih _ (h ▸ ha.card_below_lt hs hsize) _ rfl
      · rw [get_of_size_le (Nat.le_of_not_lt hsize)]
        exact leaf _

-- ---------------------------------------------------------------------------
-- Complete trees
-- ---------------------------------------------------------------------------

@[simp] theorem unfold_leaf (a : Arena) (fuel : Nat) (l : Leaf) :
    a.unfold fuel (.leaf l) = .leaf l := by
  cases fuel <;> rfl

/-- More fuel than slots below makes no difference. -/
theorem Acyclic.unfold_eq (ha : a.Acyclic) {m n : Nat} {v : Value} (hm : (a.below v).card < m)
    (hn : (a.below v).card < n) : a.unfold m v = a.unfold n v := by
  induction m generalizing n v with
  | zero => omega
  | succ m ih =>
    cases n with
    | zero => omega
    | succ n =>
      cases v with
      | leaf l => simp
      | expr e =>
        refine congrArg Tree.node (Node.map_congr fun s hs => congrArg (Prod.mk s) ?_)
        by_cases hsize : s.index < a.size
        · have hlt := ha.card_below_lt (v := .expr e) hs hsize
          exact ih (by omega) (by omega)
        · rw [get_of_size_le (Nat.le_of_not_lt hsize), unfold_leaf, unfold_leaf]

@[simp] theorem tree_leaf (a : Arena) (l : Leaf) : a.tree (.leaf l) = .leaf l := rfl

/-- The tree of an expression is made of the trees of its operands. -/
theorem Acyclic.tree_expr (ha : a.Acyclic) (n : Node Slot) :
    a.tree (.expr n) = .node (n.map fun s => (s, a.tree (a.get s))) := by
  refine congrArg Tree.node (Node.map_congr fun s hs => congrArg (Prod.mk s) ?_)
  by_cases hsize : s.index < a.size
  · have hlt := ha.card_below_lt (v := .expr n) hs hsize
    have hle := a.card_below_le (.expr n)
    exact ha.unfold_eq (by omega) (by omega)
  · rw [get_of_size_le (Nat.le_of_not_lt hsize), unfold_leaf, tree_leaf]

/-- What is folded over the tree of an expression comes from what its operands give. -/
theorem Acyclic.fold_tree_expr {β : Type} (ha : a.Acyclic) (leaf : Leaf → β)
    (node : Node (Slot × β) → β) (n : Node Slot) :
    (a.tree (.expr n)).fold leaf node =
      node (n.map fun s => (s, (a.tree (a.get s)).fold leaf node)) := by
  rw [ha.tree_expr, Tree.fold_node, Node.map_map]
  rfl

@[simp] theorem uses_leaf (a : Arena) (l : Leaf) : a.uses (.leaf l) = [] := rfl

theorem Acyclic.uses_expr (ha : a.Acyclic) (n : Node Slot) :
    a.uses (.expr n) = n.operands ++ n.operands.flatMap fun s => a.uses (a.get s) := by
  have h := ha.fold_tree_expr (fun _ => []) Tree.nodeUses n
  rw [Tree.nodeUses, Node.operands_map, List.map_map, List.flatMap_map] at h
  simp only [Function.comp_def, List.map_id'] at h
  exact h

theorem Acyclic.type_expr (ha : a.Acyclic) (n : Node Slot) :
    a.type (.expr n) = (n.map fun s => a.type (a.get s)).resultType := by
  have h := ha.fold_tree_expr Leaf.type (fun n => (n.map (·.2)).resultType) n
  rw [Node.map_map] at h
  exact h

theorem Acyclic.shape_expr (ha : a.Acyclic) (n : Node Slot) :
    a.shape (.expr n) = .node n.head (n.shapeOperands.map fun s => a.shape (a.get s)) := by
  have h := ha.fold_tree_expr Shape.leaf (fun n => .node n.head (n.shapeOperands.map (·.2))) n
  rw [Node.head_map, Node.shapeOperands_map, List.map_map] at h
  exact h

theorem Acyclic.print_expr {σ : Type} (ha : a.Acyclic) (sink : Sink σ) (n : Node Slot) :
    (a.tree (.expr n)).print sink = sink.node (n.map fun s => (a.tree (a.get s)).print sink) := by
  have h := ha.fold_tree_expr sink.leaf (fun n => sink.node (n.map (·.2))) n
  rw [Node.map_map] at h
  exact h

/-- The slots read under a value are those that it reaches. -/
theorem Acyclic.mem_uses_iff (ha : a.Acyclic) {v : Value} {t : Slot} :
    t ∈ a.uses v ↔ a.Reaches v t := by
  induction v using ha.induction with
  | leaf l => simp
  | expr n ih =>
    rw [ha.uses_expr, List.mem_append, List.mem_flatMap, reaches_iff]
    refine or_congr Iff.rfl (exists_congr fun s => and_congr_right fun hs => ih s hs)

end Arena

end ClassAtlas
