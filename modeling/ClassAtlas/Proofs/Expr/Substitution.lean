import ClassAtlas.Proofs.Expr.Edits

/-!
# Replacement is substitution

To replace the value in a slot is to put the tree of the new value under every
edge of the slot, in all trees at once: in those of the values that use the
slot, on whatever ways, and in no others. What is computed from trees does not
change if it is the same for the new value as for the old one.
-/

namespace ClassAtlas

-- ---------------------------------------------------------------------------
-- Trees
-- ---------------------------------------------------------------------------

namespace Tree

/-- The tree with another one under every edge of the slot. -/
def subst (t : Tree) (s : Slot) (replacement : Tree) : Tree :=
  t.fold .leaf fun n => .node (n.map fun t => (t.1, if t.1 = s then replacement else t.2))

@[simp] theorem subst_leaf (s : Slot) (r : Tree) (l : Leaf) :
    (leaf l).subst s r = .leaf l := rfl

@[simp] theorem subst_node (s : Slot) (r : Tree) (n : Node (Slot × Tree)) :
    (node n).subst s r =
      .node (n.map fun t => (t.1, if t.1 = s then r else t.2.subst s r)) := by
  rw [subst, fold_node, Node.map_map]
  rfl

/-- Where the slot does not occur, nothing is changed. -/
theorem subst_of_not_mem_uses {s : Slot} {r t : Tree} (h : s ∉ t.uses) : t.subst s r = t := by
  induction t using Tree.induction with
  | leaf l => rfl
  | node n ih =>
    rw [uses_node, List.mem_append, List.mem_map, List.mem_flatMap] at h
    have hedge : ∀ t ∈ n.operands, (t.1, if t.1 = s then r else t.2.subst s r) = t := by
      intro t ht
      have hne : t.1 ≠ s := fun heq => h (.inl ⟨t, ht, heq⟩)
      have hbelow : s ∉ t.2.uses := fun hs => h (.inr ⟨t, ht, hs⟩)
      rw [if_neg hne, ih t ht hbelow]
    rw [subst_node, Node.map_congr hedge]
    exact congrArg node (Node.map_id n)

end Tree

-- ---------------------------------------------------------------------------
-- Arenas
-- ---------------------------------------------------------------------------

namespace Arena

variable {a b : Arena}

theorem get_set_self {s : Slot} (hs : s.index < a.size) (w : Value) : (a.set s w).get s = w :=
  get_of_get? (get?_set_self a w hs)

theorem get_set_of_ne {s t : Slot} (h : t ≠ s) (w : Value) : (a.set s w).get t = a.get t := by
  rw [get, get?_set_of_ne a w (Ne.symm h), get]

theorem Acyclic.tree_set (ha : a.Acyclic) {s : Slot} {w : Value} (hs : s.index < a.size)
    (hw : s ∉ a.uses w) (v : Value) : (a.set s w).tree v = (a.tree v).subst s (a.tree w) := by
  have hb : (a.set s w).Acyclic := ha.set (ha.mem_uses_iff.not.mp hw)
  -- The induction goes down in the changed arena: below the slot it meets the new value, in whose
  -- tree there is nothing to substitute.
  induction v using hb.induction with
  | leaf l => rfl
  | expr n ih =>
    rw [hb.tree_expr, ha.tree_expr, Tree.subst_node, Node.map_map]
    refine congrArg Tree.node (Node.map_congr fun t ht => ?_)
    by_cases hts : t = s
    · subst hts
      have hself := ih t ht
      rw [get_set_self hs, Tree.subst_of_not_mem_uses hw] at hself
      simp [get_set_self hs, hself]
    · have hbelow := ih t ht
      rw [get_set_of_ne hts] at hbelow
      simp [get_set_of_ne hts, hts, hbelow]

/-- Below a value that does not use the slot everything stays as it is. -/
theorem Acyclic.tree_set_of_not_mem_uses (ha : a.Acyclic) {s : Slot} {w v : Value}
    (hs : s.index < a.size) (hw : s ∉ a.uses w) (hv : s ∉ a.uses v) :
    (a.set s w).tree v = a.tree v := by
  rw [ha.tree_set hs hw, Tree.subst_of_not_mem_uses hv]

/-- A successful replacement, of a slot itself or of an operand in it. The slot's old value is given
back. Before and after, the trees of values are complete, and the new ones come from the old ones by
substitution, so values that do not use the slot show no change at all. -/
theorem replace_substitutes (ha : a.WellFormed) {s : Slot} {w old : Value} (hw : w.Over a)
    (h : a.replace s w = .ok (old, b) ∨ ∃ (n : Node Slot) (index : Nat),
      n.operands[index]? = some s ∧ a.replaceOperand n index w = .ok (old, b)) :
    a.get? s = some old ∧
    (∀ v : Value, v.Over a → a.Unfolds v (a.tree v) ∧ b.Unfolds v (b.tree v) ∧
      b.tree v = (a.tree v).subst s (a.tree w)) ∧
    (∀ v : Value, s ∉ a.uses v → b.uses v = a.uses v ∧
      (∀ style, b.text style v = a.text style v) ∧ b.events v = a.events v ∧
      b.type v = a.type v ∧ b.shape v = a.shape v) := by
  have hreplace : a.replace s w = .ok (old, b) := by
    rcases h with h | ⟨n, index, hindex, h⟩
    · exact h
    · obtain ⟨t, ht, h⟩ := replaceOperand_eq_ok_iff.mp h
      obtain rfl : s = t := Option.some.inj (hindex.symm.trans ht)
      exact h
  obtain ⟨hold, huses, rfl⟩ := replace_eq_ok_iff.mp hreplace
  have hs : s.index < a.size := lt_size_of_get? hold
  have hb : (a.set s w).WellFormed := (ha.replace hw hreplace).1
  refine ⟨hold, ?_, ?_⟩
  · intro v hv
    have hv' : v.Over (a.set s w) := fun t ht => (a.size_set s w).symm ▸ hv t ht
    exact ⟨ha.unfolds_tree hv, hb.unfolds_tree hv', ha.acyclic.tree_set hs huses v⟩
  · intro v hv
    have htree := ha.acyclic.tree_set_of_not_mem_uses hs huses hv
    unfold uses text events type shape
    rw [htree]
    exact ⟨rfl, fun _ => rfl, rfl, rfl, rfl⟩

/-- The first operand of the sum is under both operands of the product. -/
theorem replace_substitutes_shared :
    ∃ b, shared.replace ⟨0⟩ (.expr (.unary .neg ⟨1⟩)) = .ok (.leaf (.const (.int 1)), b) ∧
      b.uses (.expr (.binary .mul ⟨2⟩ ⟨3⟩)) =
        [⟨2⟩, ⟨3⟩, ⟨0⟩, ⟨1⟩, ⟨1⟩, ⟨0⟩, ⟨1⟩, ⟨1⟩] ∧
      b.tree (.expr (.binary .mul ⟨2⟩ ⟨3⟩)) =
        (shared.tree (.expr (.binary .mul ⟨2⟩ ⟨3⟩))).subst ⟨0⟩
          (shared.tree (.expr (.unary .neg ⟨1⟩))) := by
  have hshared : shared.WellFormed := reachable_shared.wellFormed
  refine ⟨_, rfl, by decide, ?_⟩
  exact ((replace_substitutes hshared (by decide) (.inl rfl)).2.1 _ (by decide)).2.2

-- ---------------------------------------------------------------------------
-- Values that mean the same
-- ---------------------------------------------------------------------------

theorem Acyclic.fold_tree_set {β : Type} (ha : a.Acyclic) {s : Slot} {w : Value}
    (hs : s.index < a.size) (hw : s ∉ a.uses w) (leaf : Leaf → β) (node : Node (Slot × β) → β)
    (hsame : (a.tree w).fold leaf node = (a.tree (a.get s)).fold leaf node) (v : Value) :
    ((a.set s w).tree v).fold leaf node = (a.tree v).fold leaf node := by
  have hb : (a.set s w).Acyclic := ha.set (ha.mem_uses_iff.not.mp hw)
  -- Down in the changed arena again: the slot gives what its new value gave before the change, and
  -- that is what its old value gave.
  induction v using hb.induction with
  | leaf l => rfl
  | expr n ih =>
    rw [hb.fold_tree_expr, ha.fold_tree_expr]
    refine congrArg node (Node.map_congr fun t ht => congrArg (Prod.mk t) ?_)
    rw [ih t ht]
    by_cases hts : t = s
    · subst hts
      rw [get_set_self hs, hsame]
    · rw [get_set_of_ne hts]

/-- A replacement by a value of the same shape as the one in the slot leaves all shapes as they
are, and one by a value of the same type leaves all types as they are. -/
theorem replace_by_same_meaning (ha : a.WellFormed) {s : Slot} {w old : Value}
    (h : a.replace s w = .ok (old, b)) :
    a.get? s = some old ∧
    (a.shape w = a.shape old → ∀ v : Value, b.shape v = a.shape v) ∧
    (a.type w = a.type old → ∀ v : Value, b.type v = a.type v) := by
  obtain ⟨hold, huses, rfl⟩ := replace_eq_ok_iff.mp h
  have hs : s.index < a.size := lt_size_of_get? hold
  obtain rfl : a.get s = old := get_of_get? hold
  refine ⟨hold, ?_, ?_⟩
  · intro hshape v
    exact ha.acyclic.fold_tree_set hs huses _ _ hshape v
  · intro htype v
    exact ha.acyclic.fold_tree_set hs huses _ _ htype v

/-- The sum under the product gives way to its copy, and its first operand to a negative number:
the one changes the slots that the product uses, the other its shape. -/
theorem replace_by_same_meaning_shared :
    let a := (shared.edit (.copy (.expr (.binary .add ⟨0⟩ ⟨1⟩)))).2
    let product := Value.expr (.binary .mul ⟨2⟩ ⟨3⟩)
    (∃ old b, a.replace ⟨2⟩ (.expr (.binary .add ⟨4⟩ ⟨5⟩)) = .ok (old, b) ∧
      b.uses product ≠ a.uses product ∧ ∀ v, b.shape v = a.shape v) ∧
    (∃ old b, a.replace ⟨0⟩ (.expr (.unary .neg ⟨4⟩)) = .ok (old, b) ∧
      b.shape product ≠ a.shape product ∧ ∀ v, b.type v = a.type v) := by
  intro a product
  have ha : a.WellFormed := (reachable_shared.edit _ (by decide)).wellFormed
  have hsum : a.replace ⟨2⟩ (.expr (.binary .add ⟨4⟩ ⟨5⟩)) =
      .ok (.expr (.binary .add ⟨0⟩ ⟨1⟩), a.set ⟨2⟩ (.expr (.binary .add ⟨4⟩ ⟨5⟩))) := rfl
  have hnumber : a.replace ⟨0⟩ (.expr (.unary .neg ⟨4⟩)) =
      .ok (.leaf (.const (.int 1)), a.set ⟨0⟩ (.expr (.unary .neg ⟨4⟩))) := rfl
  refine ⟨⟨_, _, hsum, by decide, ?_⟩, ⟨_, _, hnumber, by decide, ?_⟩⟩
  · exact (replace_by_same_meaning ha hsum).2.1 (by decide)
  · exact (replace_by_same_meaning ha hnumber).2.2 (by decide)

end Arena

end ClassAtlas
