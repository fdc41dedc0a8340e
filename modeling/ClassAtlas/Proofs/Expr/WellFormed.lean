import ClassAtlas.Proofs.Expr.Acyclic

/-!
# Well-formed arenas

An arena is well formed if its values only mention slots of its own and no
slot leads back to itself. New slots and the replacement of a value by one
that does not use its slot keep it so.
-/

namespace ClassAtlas

open Relation

/-- The value only mentions slots of the arena. -/
def Value.Over (v : Value) (a : Arena) : Prop :=
  ∀ s ∈ v.operands, s.index < a.size

instance (v : Value) (a : Arena) : Decidable (v.Over a) :=
  inferInstanceAs (Decidable (∀ s ∈ v.operands, s.index < a.size))

namespace Arena

variable {a b : Arena}

structure WellFormed (a : Arena) : Prop where
  closed : ∀ {s : Slot} {v : Value}, a.get? s = some v → v.Over a
  acyclic : a.Acyclic

theorem WellFormed.over_get (ha : a.WellFormed) (s : Slot) : (a.get s).Over a := by
  by_cases hs : s.index < a.size
  · exact ha.closed (get?_eq_some_get hs)
  · rw [get_of_size_le (Nat.le_of_not_lt hs)]
    intro t ht
    cases ht

theorem wellFormed_empty : empty.WellFormed where
  closed h := by cases h
  acyclic s h := by
    obtain ⟨t, ⟨v, hv, _⟩, _⟩ := TransGen.head'_iff.mp h
    cases hv

-- ---------------------------------------------------------------------------
-- Unfolding step by step
-- ---------------------------------------------------------------------------

/-- Going down from the value through slots of the arena ends everywhere, with this tree. -/
inductive Unfolds (a : Arena) : Value → Tree → Prop where
  | leaf (l : Leaf) : a.Unfolds (.leaf l) (.leaf l)
  | expr {n : Node Slot} {value : Slot → Value} {tree : Slot → Tree}
      (hget : ∀ s ∈ n.operands, a.get? s = some (value s))
      (htree : ∀ s ∈ n.operands, a.Unfolds (value s) (tree s)) :
      a.Unfolds (.expr n) (.node (n.map fun s => (s, tree s)))

theorem WellFormed.unfolds_tree (ha : a.WellFormed) {v : Value} (hv : v.Over a) :
    a.Unfolds v (a.tree v) := by
  induction v using ha.acyclic.induction with
  | leaf l => exact .leaf l
  | expr n ih =>
    rw [ha.acyclic.tree_expr]
    exact .expr (fun s hs => get?_eq_some_get (hv s hs)) fun s hs => ih s hs (ha.over_get s)

theorem Unfolds.tree_eq {v : Value} {t : Tree} (h : a.Unfolds v t) (ha : a.Acyclic) :
    a.tree v = t := by
  induction h with
  | leaf l => rfl
  | expr hget _ ih =>
    rw [ha.tree_expr]
    refine congrArg Tree.node (Node.map_congr fun s hs => ?_)
    rw [get_of_get? (hget s hs), ih s hs]

-- ---------------------------------------------------------------------------
-- More slots
-- ---------------------------------------------------------------------------

/-- The other arena has the same slots, and maybe more behind them. -/
def Extends (a b : Arena) : Prop :=
  a.slots <+: b.slots

@[refl] theorem Extends.refl (a : Arena) : a.Extends a :=
  List.prefix_refl _

theorem Extends.trans {c : Arena} (hab : a.Extends b) (hbc : b.Extends c) : a.Extends c :=
  List.IsPrefix.trans hab hbc

theorem Extends.size_le (h : a.Extends b) : a.size ≤ b.size :=
  h.length_le

theorem Extends.over (h : a.Extends b) {v : Value} (hv : v.Over a) : v.Over b :=
  fun s hs => (hv s hs).trans_le h.size_le

theorem Extends.get? (h : a.Extends b) {s : Slot} {v : Value} (hv : a.get? s = some v) :
    b.get? s = some v := by
  obtain ⟨more, hmore⟩ := h
  unfold Arena.get?
  rw [← hmore, List.getElem?_append_left (lt_size_of_get? hv)]
  exact hv

theorem Extends.unfolds (h : a.Extends b) {v : Value} {t : Tree} (ht : a.Unfolds v t) :
    b.Unfolds v t := by
  induction ht with
  | leaf l => exact .leaf l
  | expr hget _ ih => exact .expr (fun s hs => h.get? (hget s hs)) ih

/-- New slots do not change what a value stands for. -/
theorem Extends.tree_eq (h : a.Extends b) (ha : a.WellFormed) (hb : b.Acyclic) {v : Value}
    (hv : v.Over a) : b.tree v = a.tree v :=
  (h.unfolds (ha.unfolds_tree hv)).tree_eq hb

theorem extends_push (a : Arena) (v : Value) : a.Extends (a.push v).2 :=
  List.prefix_append _ _

theorem lt_size_push (a : Arena) (v : Value) : (a.push v).1.index < (a.push v).2.size := by
  rw [size_push]
  exact Nat.lt_succ_self _

theorem get?_push_eq_some {s : Slot} {v w : Value} (h : (a.push v).2.get? s = some w) :
    a.get? s = some w ∨ s = ⟨a.size⟩ ∧ w = v := by
  have hlt := lt_size_of_get? h
  rw [size_push] at hlt
  by_cases hs : s.index < a.size
  · rw [get?_push_of_lt a v hs] at h
    exact .inl h
  · have hnew : s = ⟨a.size⟩ := congrArg Slot.mk (by omega : s.index = a.size)
    subst hnew
    exact .inr ⟨rfl, Option.some.inj (h.symm.trans (get?_push_self a v))⟩

theorem WellFormed.push (ha : a.WellFormed) {v : Value} (hv : v.Over a) :
    (a.push v).2.WellFormed := by
  -- No slot, old or new, leads to the new one.
  have hold : ∀ {s t}, (a.push v).2.Reads s t → t.index < a.size := by
    rintro s t ⟨w, hw, ht⟩
    rcases get?_push_eq_some hw with hw | ⟨_, rfl⟩
    · exact ha.closed hw t ht
    · exact hv t ht
  have hreads : ∀ {s t}, (a.push v).2.Reads s t → s.index < a.size → a.Reads s t := by
    rintro s t ⟨w, hw, ht⟩ hs
    rw [get?_push_of_lt a v hs] at hw
    exact ⟨w, hw, ht⟩
  have hpath : ∀ {s t}, TransGen (a.push v).2.Reads s t → s.index < a.size →
      t.index < a.size ∧ TransGen a.Reads s t := by
    intro s t h hs
    induction h with
    | single h => exact ⟨hold h, .single (hreads h hs)⟩
    | tail _ h ih => exact ⟨hold h, ih.2.tail (hreads h ih.1)⟩
  refine ⟨?_, ?_⟩
  · intro s w hw
    rcases get?_push_eq_some hw with hw | ⟨_, rfl⟩
    · exact (a.extends_push v).over (ha.closed hw)
    · exact (a.extends_push w).over hv
  · intro s hcycle
    obtain ⟨t, _, ht⟩ := TransGen.tail'_iff.mp hcycle
    exact ha.acyclic s (hpath hcycle (hold ht)).2

-- ---------------------------------------------------------------------------
-- Other values
-- ---------------------------------------------------------------------------

theorem get?_set_eq_some {s t : Slot} {v w : Value} (h : (a.set s v).get? t = some w) :
    t ≠ s ∧ a.get? t = some w ∨ t = s ∧ w = v := by
  by_cases hts : t = s
  · subst hts
    have hlt := lt_size_of_get? h
    rw [size_set] at hlt
    exact .inr ⟨rfl, Option.some.inj (h.symm.trans (get?_set_self a v hlt))⟩
  · rw [get?_set_of_ne a v (Ne.symm hts)] at h
    exact .inl ⟨hts, h⟩

/-- A way through the changed arena is an old one, or it came through the changed slot and goes on
below the new value. -/
theorem path_of_set {s x y : Slot} {v : Value} (hs : ¬ a.Reaches v s)
    (h : TransGen (a.set s v).Reads x y) :
    TransGen a.Reads x y ∨ ReflTransGen a.Reads x s ∧ a.Reaches v y := by
  have hstep : ∀ {x y}, (a.set s v).Reads x y → x ≠ s ∧ a.Reads x y ∨ x = s ∧ y ∈ v.operands := by
    rintro x y ⟨w, hw, hy⟩
    rcases get?_set_eq_some hw with ⟨hne, hw⟩ | ⟨rfl, rfl⟩
    · exact .inl ⟨hne, w, hw, hy⟩
    · exact .inr ⟨rfl, hy⟩
  induction h with
  | single h =>
    rcases hstep h with ⟨_, h⟩ | ⟨rfl, hy⟩
    · exact .inl (.single h)
    · exact .inr ⟨.refl, reaches_iff.mpr (.inl hy)⟩
  | tail _ h ih =>
    rcases hstep h with ⟨_, h⟩ | ⟨rfl, hz⟩
    · rcases ih with hold | ⟨hx, u, hu, huy⟩
      · exact .inl (hold.tail h)
      · exact .inr ⟨hx, u, hu, huy.tail h⟩
    · rcases ih with hold | ⟨_, hy⟩
      · exact .inr ⟨hold.to_reflTransGen, reaches_iff.mpr (.inl hz)⟩
      · exact absurd hy hs

theorem Acyclic.set (ha : a.Acyclic) {s : Slot} {v : Value} (hs : ¬ a.Reaches v s) :
    (a.set s v).Acyclic := by
  intro t hcycle
  rcases path_of_set hs hcycle with hold | ⟨hts, u, hu, hut⟩
  · exact ha t hold
  · exact hs ⟨u, hu, hut.trans hts⟩

theorem WellFormed.set (ha : a.WellFormed) {s : Slot} {v : Value} (hv : v.Over a)
    (hs : ¬ a.Reaches v s) : (a.set s v).WellFormed := by
  refine ⟨?_, ha.acyclic.set hs⟩
  intro t w hw
  unfold Value.Over
  rw [size_set]
  rcases get?_set_eq_some hw with ⟨_, hw⟩ | ⟨_, rfl⟩
  · exact ha.closed hw
  · exact hv

end Arena

end ClassAtlas
