import ClassAtlas.Expr.Build
import ClassAtlas.Proofs.Expr.WellFormed

/-!
# Edits of an arena

Everything that can be done to an arena, one edit after the other. Whatever is
done with values over the arena, it stays well formed, so everything that goes
down from a value comes to an end within the arena.
-/

namespace ClassAtlas

namespace Arena

variable {a b : Arena}

-- ---------------------------------------------------------------------------
-- Many new slots
-- ---------------------------------------------------------------------------

/-- In every well-formed arena that extends this one, a slot is made without harm. -/
def Allocates (a : Arena) (f : Arena → Slot × Arena) : Prop :=
  ∀ b : Arena, b.WellFormed → a.Extends b →
    (f b).2.WellFormed ∧ b.Extends (f b).2 ∧ (f b).1.index < (f b).2.size

theorem allocates_push {v : Value} (hv : v.Over a) : a.Allocates (·.push v) := by
  intro b hb hab
  exact ⟨hb.push (hab.over hv), b.extends_push v, b.lt_size_push v⟩

theorem Allocates.mapList {α : Type} {f : α → Arena → Slot × Arena} {xs : List α}
    (hf : ∀ x ∈ xs, a.Allocates (f x)) (hb : b.WellFormed) (hab : a.Extends b) :
    (Node.mapList f xs b).2.WellFormed ∧ b.Extends (Node.mapList f xs b).2 ∧
      ∀ s ∈ (Node.mapList f xs b).1, s.index < (Node.mapList f xs b).2.size := by
  induction xs generalizing b with
  | nil => exact ⟨hb, .refl b, by simp⟩
  | cons x xs ih =>
    obtain ⟨hx, hbx, hslot⟩ := hf x List.mem_cons_self b hb hab
    obtain ⟨hrest, hext, hslots⟩ :=
      ih (fun y hy => hf y (List.mem_cons_of_mem _ hy)) hx (hab.trans hbx)
    refine ⟨hrest, hbx.trans hext, ?_⟩
    intro s hs
    rcases List.mem_cons.mp hs with rfl | hs
    · exact hslot.trans_le hext.size_le
    · exact hslots s hs

theorem Allocates.mapState {α : Type} {f : α → Arena → Slot × Arena} {n : Node α}
    (hf : ∀ x ∈ n.operands, a.Allocates (f x)) (hb : b.WellFormed) (hab : a.Extends b) :
    (n.mapState f b).2.WellFormed ∧ b.Extends (n.mapState f b).2 ∧
      (Value.expr (n.mapState f b).1).Over (n.mapState f b).2 := by
  obtain ⟨hwf, hext, hslots⟩ := Allocates.mapList hf hb hab
  rw [← Node.snd_mapState] at hwf hext hslots
  rw [← Node.operands_mapState] at hslots
  exact ⟨hwf, hext, hslots⟩

end Arena

-- ---------------------------------------------------------------------------
-- Copies
-- ---------------------------------------------------------------------------

namespace Tree

open Arena

theorem allocates_graftOperand {a : Arena} {copy : Arena → Value × Arena}
    (h : ∀ b : Arena, b.WellFormed →
      (copy b).2.WellFormed ∧ b.Extends (copy b).2 ∧ (copy b).1.Over (copy b).2) :
    a.Allocates (graftOperand copy) := by
  intro b hb _
  obtain ⟨hwf, hext, hover⟩ := h b hb
  exact ⟨hwf.push hover, hext.trans (extends_push _ _), lt_size_push _ _⟩

/-- A tree can be written into every well-formed arena. -/
theorem wellFormed_graft (t : Tree) {a : Arena} (ha : a.WellFormed) :
    (t.graft a).2.WellFormed ∧ a.Extends (t.graft a).2 ∧ (t.graft a).1.Over (t.graft a).2 := by
  induction t using Tree.induction generalizing a with
  | leaf l => exact ⟨ha, .refl a, fun s hs => by cases hs⟩
  | node n ih =>
    rw [graft_node]
    refine Allocates.mapState (fun operand hoperand => ?_) ha (.refl a)
    exact allocates_graftOperand fun b hb => ih operand hoperand hb

end Tree

namespace Arena

variable {a b : Arena}

mutual

/-- Copying the value comes to an end within the arena, with this value and this arena. -/
inductive Copies : Arena → Value → Value → Arena → Prop where
  | leaf (a : Arena) (l : Leaf) : Copies a (.leaf l) (.leaf l) a
  | expr {a b : Arena} {n m : Node Slot} (hhead : m.head = n.head)
      (hoperands : CopiesAll a n.operands m.operands b) : Copies a (.expr n) (.expr m) b

/-- Operands are copied in turn, each from what its slot holds by then. -/
inductive CopiesAll : Arena → List Slot → List Slot → Arena → Prop where
  | nil (a : Arena) : CopiesAll a [] [] a
  | cons {a b c : Arena} {s : Slot} {ss ts : List Slot} {v w : Value} (hget : a.get? s = some v)
      (hcopy : Copies a v w b) (hrest : CopiesAll (b.push w).2 ss ts c) :
      CopiesAll a (s :: ss) ((b.push w).1 :: ts) c

end

theorem copiesAll_mapList {tree : Slot → Tree} {ss : List Slot}
    (hget : ∀ s ∈ ss, ∃ v, a.get? s = some v ∧ ∀ b : Arena, b.WellFormed → a.Extends b →
      b.Copies v ((tree s).graft b).1 ((tree s).graft b).2)
    (hb : b.WellFormed) (hab : a.Extends b) :
    CopiesAll b ss (Node.mapList (fun s => Tree.graftOperand (tree s).graft) ss b).1
      (Node.mapList (fun s => Tree.graftOperand (tree s).graft) ss b).2 := by
  induction ss generalizing b with
  | nil => exact .nil b
  | cons s ss ih =>
    obtain ⟨v, hv, hcopy⟩ := hget s List.mem_cons_self
    obtain ⟨hwf, hext, hover⟩ := (tree s).wellFormed_graft hb
    exact .cons (hab.get? hv) (hcopy b hb hab)
      (ih (fun t ht => hget t (List.mem_cons_of_mem _ ht)) (hwf.push hover)
        (hab.trans (hext.trans (extends_push _ _))))

theorem Unfolds.copies {v : Value} {t : Tree} (h : a.Unfolds v t) (hb : b.WellFormed)
    (hab : a.Extends b) : b.Copies v (t.graft b).1 (t.graft b).2 := by
  induction h generalizing b with
  | leaf l => exact .leaf b l
  | expr hget _ ih =>
    rw [Tree.graft_node, Node.mapState_map]
    refine .expr (Node.head_mapState _ _ _) ?_
    rw [Node.operands_mapState, Node.snd_mapState]
    exact copiesAll_mapList (fun s hs => ⟨_, hget s hs, fun c hc hac => ih s hs hc hac⟩) hb hab

theorem WellFormed.copies (ha : a.WellFormed) {v : Value} (hv : v.Over a) :
    a.Copies v (a.copy v).1 (a.copy v).2 :=
  (ha.unfolds_tree hv).copies ha (.refl a)

/-- What is computed from an expression is computed from what the slots of its operands hold. -/
structure ComputesFrom (a : Arena) (n : Node Slot) : Prop where
  uses : a.uses (.expr n) = n.operands ++ n.operands.flatMap fun s => a.uses (a.get s)
  type : a.type (.expr n) = (n.map fun s => a.type (a.get s)).resultType
  shape : a.shape (.expr n) = .node n.head (n.shapeOperands.map fun s => a.shape (a.get s))
  print : ∀ {σ : Type} (sink : Sink σ),
    (a.tree (.expr n)).print sink = sink.node (n.map fun s => (a.tree (a.get s)).print sink)

theorem Acyclic.computesFrom (ha : a.Acyclic) (n : Node Slot) : a.ComputesFrom n where
  uses := ha.uses_expr n
  type := ha.type_expr n
  shape := ha.shape_expr n
  print sink := ha.print_expr sink n

end Arena

-- ---------------------------------------------------------------------------
-- Edits
-- ---------------------------------------------------------------------------

inductive Edit where
  /-- A new slot for a value. -/
  | push (v : Value)
  | build (n : Node Value)
  | replace (s : Slot) (v : Value)
  | replaceOperand (n : Node Slot) (index : Nat) (v : Value)
  | copy (v : Value)
deriving DecidableEq

inductive Outcome where
  | slot (s : Slot)
  | value (v : Value)
  | failure (e : ExprError)
deriving DecidableEq

/-- The values that are handed over to the arena. -/
def Edit.given : Edit → List Value
  | push v | replace _ v | replaceOperand _ _ v | copy v => [v]
  | build n => n.operands

/-- The slots that are handed out. -/
def Outcome.slots : Outcome → List Slot
  | slot s => [s]
  | value v => v.operands
  | failure _ => []

namespace Arena

def edit (a : Arena) : Edit → Outcome × Arena
  | .push v => (a.push v).map .slot id
  | .build n =>
    match a.build n with
    | .ok (n, a) => (.value (.expr n), a)
    | .error e => (.failure e, a)
  | .replace s v =>
    match a.replace s v with
    | .ok (old, a) => (.value old, a)
    | .error e => (.failure e, a)
  | .replaceOperand n index v =>
    match a.replaceOperand n index v with
    | .ok (old, a) => (.value old, a)
    | .error e => (.failure e, a)
  | .copy v => (a.copy v).map .value id

/-- The arenas that edits lead to, from the empty one on. -/
inductive Reachable : Arena → Prop where
  | empty : Reachable empty
  | edit {a : Arena} (h : Reachable a) (e : Edit) (hgiven : ∀ v ∈ e.given, v.Over a) :
      Reachable (a.edit e).2

variable {a : Arena}

theorem WellFormed.store (ha : a.WellFormed) {n : Node Value} (hn : ∀ v ∈ n.operands, v.Over a) :
    (a.store n).2.WellFormed ∧ (Value.expr (a.store n).1).Over (a.store n).2 := by
  obtain ⟨hwf, _, hover⟩ := Allocates.mapState (f := fun v b => b.push v)
    (fun v hv => allocates_push (hn v hv)) ha (.refl a)
  exact ⟨hwf, hover⟩

theorem replace_eq_ok_iff {s : Slot} {v old : Value} {b : Arena} :
    a.replace s v = .ok (old, b) ↔ a.get? s = some old ∧ s ∉ a.uses v ∧ b = a.set s v := by
  rw [replace]
  cases hget : a.get? s with
  | none => simp
  | some w => by_cases huses : s ∈ a.uses v <;> simp [huses, eq_comm]

theorem replaceOperand_eq_ok_iff {n : Node Slot} {index : Nat} {v old : Value} {b : Arena} :
    a.replaceOperand n index v = .ok (old, b) ↔
      ∃ s, n.operands[index]? = some s ∧ a.replace s v = .ok (old, b) := by
  rw [replaceOperand, Node.operandSlot]
  cases n.operands[index]? <;> simp

theorem WellFormed.replace (ha : a.WellFormed) {s : Slot} {v old : Value} {b : Arena}
    (hv : v.Over a) (h : a.replace s v = .ok (old, b)) : b.WellFormed ∧ old.Over b := by
  obtain ⟨hold, huses, rfl⟩ := replace_eq_ok_iff.mp h
  rw [ha.acyclic.mem_uses_iff] at huses
  refine ⟨ha.set hv huses, ?_⟩
  unfold Value.Over
  rw [size_set]
  exact ha.closed hold

/-- One edit keeps an arena well formed and hands out slots of it only. -/
theorem WellFormed.edit (ha : a.WellFormed) {e : Edit} (he : ∀ v ∈ e.given, v.Over a) :
    (a.edit e).2.WellFormed ∧ ∀ s ∈ (a.edit e).1.slots, s.index < (a.edit e).2.size := by
  cases e with
  | push v =>
    refine ⟨ha.push (he v List.mem_cons_self), ?_⟩
    intro s hs
    obtain rfl := List.mem_singleton.mp hs
    exact a.lt_size_push v
  | build n =>
    rw [Arena.edit, Arena.build]
    cases n.fault? with
    | some fault => exact ⟨ha, by simp [Outcome.slots]⟩
    | none => exact ha.store he
  | replace s v =>
    rw [Arena.edit]
    split
    · next h => exact ha.replace (he v List.mem_cons_self) h
    · exact ⟨ha, by simp [Outcome.slots]⟩
  | replaceOperand n index v =>
    rw [Arena.edit]
    split
    · next h =>
      obtain ⟨s, _, h⟩ := replaceOperand_eq_ok_iff.mp h
      exact ha.replace (he v List.mem_cons_self) h
    · exact ⟨ha, by simp [Outcome.slots]⟩
  | copy v =>
    obtain ⟨hwf, _, hover⟩ := (a.tree v).wellFormed_graft ha
    exact ⟨hwf, hover⟩

theorem Reachable.wellFormed (h : a.Reachable) : a.WellFormed := by
  induction h with
  | empty => exact wellFormed_empty
  | edit _ e hgiven ih => exact (ih.edit hgiven).1

/-- After any edits with values over the arena, whether they succeed or fail, the arena is well
formed, and the next edit hands out slots of it only. From every value over the arena all ways down
end within it, for copies as well as for what goes from slot to slot and changes nothing. -/
theorem reachable_wellFormed_and_total {a : Arena} (h : a.Reachable) :
    a.WellFormed ∧
    (∀ e : Edit, (∀ v ∈ e.given, v.Over a) →
      ∀ s ∈ (a.edit e).1.slots, s.index < (a.edit e).2.size) ∧
    (∀ v : Value, v.Over a →
      a.Unfolds v (a.tree v) ∧ a.Copies v (a.copy v).1 (a.copy v).2) ∧
    (∀ n : Node Slot, a.ComputesFrom n) := by
  have ha : a.WellFormed := h.wellFormed
  refine ⟨ha, ?_, ?_, ha.acyclic.computesFrom⟩
  · intro e he
    exact (ha.edit he).2
  · intro v hv
    exact ⟨ha.unfolds_tree hv, ha.copies hv⟩

/-- A sum, and the product of two slots that both hold it. -/
def shared : Arena :=
  let one := Value.leaf (.const (.int 1))
  let two := Value.leaf (.const (.int 2))
  let sum := Value.expr (.binary .add ⟨0⟩ ⟨1⟩)
  ((empty.edit (.build (.binary .add one two))).2.edit (.build (.binary .mul sum sum))).2

theorem reachable_shared : shared.Reachable := by
  refine .edit (.edit .empty _ ?_) _ ?_
  · decide
  · decide

/-- The operand of the sum cannot become the product, which is two levels above it. -/
theorem reachable_wellFormed_and_total_shared :
    shared.WellFormed ∧
    shared.uses (.expr (.binary .mul ⟨2⟩ ⟨3⟩)) = [⟨2⟩, ⟨3⟩, ⟨0⟩, ⟨1⟩, ⟨0⟩, ⟨1⟩] ∧
    shared.Unfolds (.expr (.binary .mul ⟨2⟩ ⟨3⟩)) (shared.tree (.expr (.binary .mul ⟨2⟩ ⟨3⟩))) ∧
    shared.edit (.replace ⟨0⟩ (.expr (.binary .mul ⟨2⟩ ⟨3⟩))) =
      (.failure (.containsItself ⟨0⟩), shared) := by
  obtain ⟨hwf, _, htree, _⟩ := reachable_wellFormed_and_total reachable_shared
  exact ⟨hwf, by decide, (htree _ (by decide)).1, by decide⟩

end Arena

end ClassAtlas
