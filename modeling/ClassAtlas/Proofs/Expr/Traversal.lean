import ClassAtlas.Expr.Arena
import ClassAtlas.Expr.Shape

/-!
# Going through nodes and trees

A node is its head and the list of its operands, and every way to go through a
node is a way to go through that list. Trees are proved about from the
operands up.
-/

namespace ClassAtlas

namespace Node

variable {α β γ σ : Type}

-- ---------------------------------------------------------------------------
-- Heads and operands
-- ---------------------------------------------------------------------------

theorem eq_of_head_of_operands {n m : Node α} (hhead : n.head = m.head)
    (hoperands : n.operands = m.operands) : n = m := by
  cases n <;> cases m <;> simp only [head, reduceCtorEq] at hhead
  case invoke.invoke kind method base args _ _ base' args' =>
    cases base <;> cases base' <;> simp_all [operands]
  all_goals simp_all [operands]

@[simp] theorem head_map (f : α → β) (n : Node α) : (n.map f).head = n.head := by
  cases n <;> simp [map, head]

theorem map_congr {f g : α → β} {n : Node α} (h : ∀ x ∈ n.operands, f x = g x) :
    n.map f = n.map g := by
  refine eq_of_head_of_operands (by simp) ?_
  rw [operands_map, operands_map]
  exact List.map_congr_left h

theorem shapeOperands_map (f : α → β) (n : Node α) :
    (n.map f).shapeOperands = n.shapeOperands.map f := by
  cases n with
  | newMultiArray => rfl
  | invoke kind method base args => exact operands_map f (.invoke kind method base args)
  | binary | unary | cast | instanceOf | new | newArray => rfl

-- ---------------------------------------------------------------------------
-- Passing a state along
-- ---------------------------------------------------------------------------

@[simp] theorem mapList_nil (f : α → σ → β × σ) (s : σ) : mapList f [] s = ([], s) := rfl

@[simp] theorem mapList_cons (f : α → σ → β × σ) (x : α) (xs : List α) (s : σ) :
    mapList f (x :: xs) s =
      ((f x s).1 :: (mapList f xs (f x s).2).1, (mapList f xs (f x s).2).2) := rfl

theorem length_mapList (f : α → σ → β × σ) (xs : List α) (s : σ) :
    (mapList f xs s).1.length = xs.length := by
  induction xs generalizing s with
  | nil => rfl
  | cons x xs ih => simp [ih]

@[simp] theorem head_mapState (f : α → σ → β × σ) (n : Node α) (s : σ) :
    (n.mapState f s).1.head = n.head := by
  cases n with
  | newMultiArray type sizes => simp [mapState, head, length_mapList]
  | invoke kind method base args => cases base <;> rfl
  | binary | unary | cast | instanceOf | new | newArray => rfl

theorem operands_mapState (f : α → σ → β × σ) (n : Node α) (s : σ) :
    (n.mapState f s).1.operands = (mapList f n.operands s).1 := by
  cases n with
  | invoke kind method base args => cases base <;> rfl
  | binary | unary | cast | instanceOf | new | newArray | newMultiArray => rfl

theorem snd_mapState (f : α → σ → β × σ) (n : Node α) (s : σ) :
    (n.mapState f s).2 = (mapList f n.operands s).2 := by
  cases n with
  | invoke kind method base args => cases base <;> rfl
  | binary | unary | cast | instanceOf | new | newArray | newMultiArray => rfl

/-- Going through a node is going through its operands. -/
theorem mapState_congr {f : α → σ → γ × σ} {g : β → σ → γ × σ} {n : Node α} {m : Node β} {s : σ}
    (hhead : n.head = m.head) (h : mapList f n.operands s = mapList g m.operands s) :
    n.mapState f s = m.mapState g s := by
  refine Prod.ext (eq_of_head_of_operands ?_ ?_) ?_
  · rw [head_mapState, head_mapState, hhead]
  · rw [operands_mapState, operands_mapState, h]
  · rw [snd_mapState, snd_mapState, h]

theorem mapList_map (f : β → σ → γ × σ) (g : α → β) (xs : List α) (s : σ) :
    mapList f (xs.map g) s = mapList (fun x => f (g x)) xs s := by
  induction xs generalizing s with
  | nil => rfl
  | cons x xs ih => simp [ih]

theorem mapState_map (f : β → σ → γ × σ) (g : α → β) (n : Node α) (s : σ) :
    (n.map g).mapState f s = n.mapState (fun x => f (g x)) s := by
  refine mapState_congr (by simp) ?_
  rw [operands_map, mapList_map]

end Node

-- ---------------------------------------------------------------------------
-- Trees
-- ---------------------------------------------------------------------------

namespace Tree

theorem sizeOf_operand_lt {n : Node (Slot × Tree)} {operand : Slot × Tree}
    (h : operand ∈ n.operands) : sizeOf operand.2 < sizeOf (node n) := by
  have hpair : sizeOf operand.2 < sizeOf operand := by
    obtain ⟨s, t⟩ := operand
    simp only [Prod.mk.sizeOf_spec]
    omega
  cases n with
  | newMultiArray type sizes =>
    have hmem : sizeOf operand < sizeOf sizes := List.sizeOf_lt_of_mem h
    simp only [node.sizeOf_spec, Node.newMultiArray.sizeOf_spec]
    omega
  | invoke kind method base args =>
    simp only [Node.operands, List.mem_append, Option.mem_toList] at h
    simp only [node.sizeOf_spec, Node.invoke.sizeOf_spec]
    rcases h with rfl | h
    · simp only [Option.some.sizeOf_spec]
      omega
    · have hmem := List.sizeOf_lt_of_mem h
      omega
  | binary op left right =>
    simp only [Node.operands, List.mem_cons, List.not_mem_nil, or_false] at h
    simp only [node.sizeOf_spec, Node.binary.sizeOf_spec]
    rcases h with rfl | rfl <;> omega
  | new name => cases h
  | unary | cast | instanceOf | newArray =>
    rw [Node.operands, List.mem_singleton] at h
    subst h
    simp only [node.sizeOf_spec, Node.unary.sizeOf_spec, Node.cast.sizeOf_spec,
      Node.instanceOf.sizeOf_spec, Node.newArray.sizeOf_spec]
    omega

/-- From the operands to the root. -/
theorem induction {P : Tree → Prop} (leaf : ∀ l, P (.leaf l))
    (node : ∀ n : Node (Slot × Tree), (∀ operand ∈ n.operands, P operand.2) → P (.node n)) :
    ∀ t, P t
  | .leaf l => leaf l
  | .node n => node n fun operand _ => induction leaf node operand.2
termination_by t => sizeOf t
decreasing_by exact sizeOf_operand_lt ‹_›

@[simp] theorem uses_node (n : Node (Slot × Tree)) :
    (node n).uses = n.operands.map (·.1) ++ n.operands.flatMap (·.2.uses) := by
  rw [uses, fold_node, nodeUses, Node.operands_map, List.map_map, List.flatMap_map]
  rfl

theorem graft_node (n : Node (Slot × Tree)) (a : Arena) :
    (node n).graft a =
      (.expr (n.mapState (fun operand => graftOperand operand.2.graft) a).1,
        (n.mapState (fun operand => graftOperand operand.2.graft) a).2) := by
  rw [graft, fold_node, Node.mapState_map]

end Tree

end ClassAtlas
