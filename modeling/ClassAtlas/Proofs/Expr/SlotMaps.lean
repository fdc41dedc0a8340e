import ClassAtlas.Proofs.Expr.Edits
import ClassAtlas.Proofs.Expr.Renaming
import Mathlib.Data.Set.Defs

/-!
# From one arena to another

Slots of one arena may stand for slots of another that hold the same values up
to the slots themselves. Values are then worth the same on both sides: what is
computed from them does not tell in which arena they are, how its slots are
numbered, or which operands share a slot.
-/

namespace ClassAtlas

variable {a b : Arena}

/-! ## Maps of slots -/

/-- The value with other slots for its operands. -/
def Value.rename (f : Slot → Slot) : Value → Value
  | leaf l => .leaf l
  | expr n => .expr (n.map f)

@[simp] theorem Value.operands_rename (f : Slot → Slot) (v : Value) :
    (v.rename f).operands = v.operands.map f := by
  cases v with
  | leaf l => rfl
  | expr n => exact Node.operands_map f n

/-- Takes slots of one arena to slots of another that hold the same, up to the map itself. Several
slots may go to one. -/
structure SlotMap (a b : Arena) where
  domain : Set Slot
  slot : Slot → Slot
  inside : ∀ s ∈ domain, s.index < a.size
  closed : ∀ s ∈ domain, ∀ t ∈ (a.get s).operands, t ∈ domain
  holds : ∀ s ∈ domain, b.get? (slot s) = some ((a.get s).rename slot)

namespace SlotMap

theorem get_slot (f : SlotMap a b) {s : Slot} (hs : s ∈ f.domain) :
    b.get (f.slot s) = (a.get s).rename f.slot :=
  Arena.get_of_get? (f.holds s hs)

theorem over_rename (f : SlotMap a b) {v : Value} (hv : ∀ s ∈ v.operands, s ∈ f.domain) :
    (v.rename f.slot).Over b := by
  intro t ht
  rw [Value.operands_rename] at ht
  obtain ⟨s, hs, rfl⟩ := List.mem_map.mp ht
  exact Arena.lt_size_of_get? (f.holds s (hv s hs))

/-- The tree of a value goes along with the map. -/
theorem tree_rename (f : SlotMap a b) (ha : a.Acyclic) (hb : b.Acyclic) {v : Value}
    (hv : ∀ s ∈ v.operands, s ∈ f.domain) :
    b.tree (v.rename f.slot) = (a.tree v).rename f.slot := by
  -- Down in the first arena. The second one follows, however often it comes to a slot.
  induction v using ha.induction with
  | leaf l => rfl
  | expr n ih =>
    rw [Value.rename, hb.tree_expr, ha.tree_expr, Tree.rename_node, Node.map_map, Node.map_map]
    refine congrArg Tree.node (Node.map_congr fun s hs => congrArg (Prod.mk (f.slot s)) ?_)
    rw [f.get_slot (hv s hs), ih s hs (f.closed s (hv s hs))]

end SlotMap

/-! ## What does not depend on the slots -/

/-- A map of slots between two arenas keeps the shape, the type, both texts and the printed pieces
of every value over its domain, and takes the list of its slots along. -/
theorem SlotMap.keeps_meaning (ha : a.WellFormed) (hb : b.WellFormed) (f : SlotMap a b) {v : Value}
    (hv : ∀ s ∈ v.operands, s ∈ f.domain) :
    let w := v.rename f.slot
    a.Unfolds v (a.tree v) ∧ b.Unfolds w ((a.tree v).rename f.slot) ∧
    b.shape w = a.shape v ∧ b.type w = a.type v ∧
    (∀ style, b.text style w = a.text style v) ∧ b.events w = a.events v ∧
    b.uses w = (a.uses v).map f.slot := by
  intro w
  have htree : b.tree w = (a.tree v).rename f.slot := f.tree_rename ha.acyclic hb.acyclic hv
  have hover : v.Over a := fun s hs => f.inside s (hv s hs)
  refine ⟨ha.unfolds_tree hover, htree ▸ hb.unfolds_tree (f.over_rename hv), ?_⟩
  unfold Arena.shape Arena.type Arena.text Arena.events Arena.uses
  rw [htree]
  exact ⟨Tree.shape_rename _ _, Tree.type_rename _ _, fun style => Tree.text_rename style _ _,
    Tree.events_rename _ _, Tree.uses_rename _ _⟩

namespace Arena

/-- The sum of `shared` once only, its operands the other way round. -/
def compact : Arena :=
  let one := Value.leaf (.const (.int 1))
  let two := Value.leaf (.const (.int 2))
  (((empty.edit (.push two)).2.edit (.push one)).2.edit (.push (.expr (.binary .add ⟨1⟩ ⟨0⟩)))).2

theorem reachable_compact : compact.Reachable := by
  refine .edit (.edit (.edit .empty _ ?_) _ ?_) _ ?_ <;> decide

/-- Both sums go to the one. -/
def compacting : SlotMap shared compact where
  domain := {s | s.index < 4}
  slot s := if s = ⟨0⟩ then ⟨1⟩ else if s = ⟨1⟩ then ⟨0⟩ else ⟨2⟩
  inside _ hs := hs
  closed := by
    rintro ⟨i⟩ (hi : i < 4)
    revert i
    decide
  holds := by
    rintro ⟨i⟩ (hi : i < 4)
    revert i
    decide

/-- The product of the two sums becomes the square of one. -/
theorem keeps_meaning_compacting :
    let product := Value.expr (.binary .mul ⟨2⟩ ⟨3⟩)
    let square := Value.expr (.binary .mul ⟨2⟩ ⟨2⟩)
    (∀ s ∈ product.operands, s ∈ compacting.domain) ∧
    product.rename compacting.slot = square ∧
    shared.uses product = [⟨2⟩, ⟨3⟩, ⟨0⟩, ⟨1⟩, ⟨0⟩, ⟨1⟩] ∧
    compact.uses square = [⟨2⟩, ⟨2⟩, ⟨1⟩, ⟨0⟩, ⟨1⟩, ⟨0⟩] ∧
    compact.shape square = shared.shape product ∧
    compact.events square = shared.events product := by
  intro product square
  have hdomain : ∀ s ∈ product.operands, s ∈ compacting.domain := by
    change ∀ s ∈ product.operands, s.index < 4
    decide
  obtain ⟨-, -, hshape, -, -, hevents, -⟩ :=
    SlotMap.keeps_meaning reachable_shared.wellFormed reachable_compact.wellFormed compacting
      hdomain
  exact ⟨hdomain, by decide, by decide, by decide, hshape, hevents⟩

end Arena

end ClassAtlas
