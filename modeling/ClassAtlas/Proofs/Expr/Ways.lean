import ClassAtlas.Proofs.Expr.Edits
import Mathlib.Data.List.Nodup
import Mathlib.Data.Set.Card

/-!
# Ways down

A way down from a value takes one of its operands, then one of what that
operand's slot holds, and so on. It is told by the operands' positions, so two
ways can come through the same slots. The slots read under a value are the
ends of its ways, one after the other.
-/

namespace ClassAtlas

-- ---------------------------------------------------------------------------
-- Following a way
-- ---------------------------------------------------------------------------

namespace Arena

variable {a : Arena}

/-- The slot at the end of the way that takes the operands at these positions. A way takes at
least one operand and goes through slots of the arena only. -/
def follow (a : Arena) : Value → List Nat → Option Slot
  | _, [] => none
  | v, [i] => v.operands[i]?
  | v, i :: j :: way => do
    let s ← v.operands[i]?
    let w ← a.get? s
    a.follow w (j :: way)

@[simp] theorem follow_nil (a : Arena) (v : Value) : a.follow v [] = none := rfl

@[simp] theorem follow_leaf (a : Arena) (l : Leaf) (way : List Nat) :
    a.follow (.leaf l) way = none := by
  cases way with
  | nil => rfl
  | cons i way => cases way <;> rfl

/-- A way ends in the slot of the first operand, or it goes on below that slot. -/
theorem follow_cons_eq_some_iff {v : Value} {i : Nat} {way : List Nat} {t : Slot} :
    a.follow v (i :: way) = some t ↔
      ∃ s, v.operands[i]? = some s ∧ (way = [] ∧ s = t ∨ a.follow (a.get s) way = some t) := by
  cases way with
  | nil => simp [follow]
  | cons j way =>
    simp only [follow, Option.bind_eq_bind, Option.bind_eq_some_iff, reduceCtorEq, false_and,
      false_or]
    refine exists_congr fun s => and_congr_right fun _ => ?_
    by_cases hs : s.index < a.size
    · simp [get?_eq_some_get hs]
    · have hnone : a.get? s = none := List.getElem?_eq_none (Nat.le_of_not_lt hs)
      simp [hnone, get_of_size_le (Nat.le_of_not_lt hs)]

theorem follow_cons_of_ne_nil {v : Value} {i : Nat} {s : Slot} (hs : v.operands[i]? = some s)
    {way : List Nat} (hway : way ≠ []) : a.follow v (i :: way) = a.follow (a.get s) way := by
  refine Option.ext fun t => ?_
  rw [follow_cons_eq_some_iff, hs]
  simp [hway]

end Arena

-- ---------------------------------------------------------------------------
-- All ways
-- ---------------------------------------------------------------------------

/-- The ways that end at the operands, then those that go on below each operand. -/
def Tree.nodeWays (n : Node (Slot × List (List Nat))) : List (List Nat) :=
  n.operands.zipIdx.map (fun x => [x.2]) ++
    n.operands.zipIdx.flatMap fun x => x.1.2.map (x.2 :: ·)

namespace Arena

variable {a : Arena}

/-- Every way down from the value, in the order in which `uses` comes to their ends. -/
def ways (a : Arena) (v : Value) : List (List Nat) :=
  (a.tree v).fold (fun _ => []) Tree.nodeWays

@[simp] theorem ways_leaf (a : Arena) (l : Leaf) : a.ways (.leaf l) = [] := rfl

theorem Acyclic.ways_expr (ha : a.Acyclic) (n : Node Slot) :
    a.ways (.expr n) = n.operands.zipIdx.map (fun x => [x.2]) ++
      n.operands.zipIdx.flatMap fun x => (a.ways (a.get x.1)).map (x.2 :: ·) := by
  have h := ha.fold_tree_expr (fun _ => []) Tree.nodeWays n
  rw [Tree.nodeWays, Node.operands_map, List.zipIdx_map, List.map_map, List.flatMap_map] at h
  exact h

/-- The ways listed are those that lead somewhere. -/
theorem Acyclic.mem_ways_iff (ha : a.Acyclic) {v : Value} {way : List Nat} :
    way ∈ a.ways v ↔ ∃ t, a.follow v way = some t := by
  induction v using ha.induction generalizing way with
  | leaf l => simp
  | expr n ih =>
    rw [ha.ways_expr, List.mem_append, List.mem_map, List.mem_flatMap]
    constructor
    · rintro (⟨⟨s, i⟩, hs, rfl⟩ | ⟨⟨s, i⟩, hs, hway⟩)
      · rw [List.mk_mem_zipIdx_iff_getElem?] at hs
        exact ⟨s, hs⟩
      · obtain ⟨rest, hrest, rfl⟩ := List.mem_map.mp hway
        rw [List.mk_mem_zipIdx_iff_getElem?] at hs
        obtain ⟨t, ht⟩ := (ih s (List.mem_of_getElem? hs)).mp hrest
        exact ⟨t, follow_cons_eq_some_iff.mpr ⟨s, hs, .inr ht⟩⟩
    · rintro ⟨t, ht⟩
      cases way with
      | nil => cases ht
      | cons i way =>
        obtain ⟨s, hs, ⟨rfl, _⟩ | hrest⟩ := follow_cons_eq_some_iff.mp ht
        · exact .inl ⟨(s, i), List.mk_mem_zipIdx_iff_getElem?.mpr hs, rfl⟩
        · have hway := (ih s (List.mem_of_getElem? hs)).mpr ⟨t, hrest⟩
          exact .inr ⟨(s, i), List.mk_mem_zipIdx_iff_getElem?.mpr hs,
            List.mem_map_of_mem hway⟩

theorem Acyclic.nil_not_mem_ways (ha : a.Acyclic) (v : Value) : [] ∉ a.ways v := by
  rw [ha.mem_ways_iff]
  rintro ⟨t, ht⟩
  cases ht

/-- No way is listed twice, not even where a slot is met twice. -/
theorem Acyclic.nodup_ways (ha : a.Acyclic) (v : Value) : (a.ways v).Nodup := by
  induction v using ha.induction with
  | leaf l => exact List.nodup_nil
  | expr n ih =>
    have hpositions : n.operands.zipIdx.Pairwise (·.2 ≠ ·.2) := by
      rw [← List.pairwise_map, List.zipIdx_map_snd]
      exact List.nodup_range'
    rw [ha.ways_expr, List.nodup_append']
    refine ⟨?_, List.nodup_flatMap.mpr ⟨?_, ?_⟩, ?_⟩
    · rw [List.Nodup, List.pairwise_map]
      exact hpositions.imp fun hne heq => hne (List.cons.inj heq).1
    · rintro ⟨s, i⟩ hs
      exact (ih s (List.fst_mem_of_mem_zipIdx hs)).map List.cons_injective
    · refine hpositions.imp ?_
      intro x y hne way hx hy
      obtain ⟨_, _, rfl⟩ := List.mem_map.mp hx
      obtain ⟨_, _, heq⟩ := List.mem_map.mp hy
      exact hne (List.cons.inj heq).1.symm
    · -- A way that ends at an operand could only be one that takes no step below it.
      intro way hdirect hnested
      obtain ⟨x, _, rfl⟩ := List.mem_map.mp hdirect
      obtain ⟨y, _, hy⟩ := List.mem_flatMap.mp hnested
      obtain ⟨rest, hrest, heq⟩ := List.mem_map.mp hy
      rw [(List.cons.inj heq).2] at hrest
      exact ha.nil_not_mem_ways _ hrest

-- ---------------------------------------------------------------------------
-- Ends of ways
-- ---------------------------------------------------------------------------

/-- The slots read under a value are the ends of its ways, in their order. -/
theorem Acyclic.map_follow_ways (ha : a.Acyclic) (v : Value) :
    (a.ways v).map (a.follow v) = (a.uses v).map some := by
  induction v using ha.induction with
  | leaf l => rfl
  | expr n ih =>
    -- The slots come from the operands alone, the ways from the operands with their positions.
    have hslots : n.operands = n.operands.zipIdx.map Prod.fst := (List.zipIdx_map_fst 0 _).symm
    have hat : ∀ x ∈ n.operands.zipIdx, (Value.expr n).operands[x.2]? = some x.1 := fun x hx =>
      List.mem_zipIdx_iff_getElem?.mp hx
    rw [ha.ways_expr, ha.uses_expr, List.map_append, List.map_append, List.map_map,
      List.map_flatMap, List.map_flatMap]
    congr 1
    · conv_rhs => rw [hslots, List.map_map]
      exact List.map_congr_left hat
    · conv_rhs => rw [hslots, List.flatMap_map]
      refine List.flatMap_congr fun x hx => ?_
      rw [← ih x.1 (List.fst_mem_of_mem_zipIdx hx), List.map_map]
      refine List.map_congr_left fun way hway => ?_
      refine follow_cons_of_ne_nil (hat x hx) ?_
      rintro rfl
      exact ha.nil_not_mem_ways _ hway

/-- There are finitely many ways to a slot, and it is read once for each of them. -/
theorem Acyclic.encard_follow (ha : a.Acyclic) (v : Value) (t : Slot) :
    {way | a.follow v way = some t}.encard = (a.uses v).count t := by
  have hset : {way | a.follow v way = some t} =
      ((a.ways v).filter (a.follow v · == some t)).toFinset := by
    ext way
    simp only [Set.mem_ofPred_eq, List.coe_toFinset, List.mem_filter, beq_iff_eq, ha.mem_ways_iff]
    exact ⟨fun h => ⟨⟨t, h⟩, h⟩, And.right⟩
  have hcount : ((a.ways v).filter (a.follow v · == some t)).length = (a.uses v).count t :=
    calc ((a.ways v).filter (a.follow v · == some t)).length
        = ((a.ways v).map (a.follow v)).count (some t) := by
          rw [← List.countP_eq_length_filter, List.count_eq_countP, List.countP_map]
          rfl
      _ = ((a.uses v).map some).count (some t) := by rw [ha.map_follow_ways]
      _ = (a.uses v).count t := List.count_map_of_injective _ _ (Option.some_injective _) t
  rw [hset, Set.encard_coe_eq_coe_finsetCard,
    List.toFinset_card_of_nodup ((ha.nodup_ways v).filter _), hcount]

theorem Acyclic.nodup_uses_iff (ha : a.Acyclic) (v : Value) :
    (a.uses v).Nodup ↔
      ∀ t way way', a.follow v way = some t → a.follow v way' = some t → way = way' := by
  rw [List.nodup_iff_count_le_one]
  refine forall_congr' fun t => ?_
  rw [← Nat.cast_le (α := ℕ∞), ← ha.encard_follow v t, Nat.cast_one, Set.encard_le_one_iff]
  rfl

/-- The slots read under a value are those that it reaches, each as often as there are ways to it.
The slots of its operands stand first, in their order, and behind them the slots read under each
operand. None is there twice exactly if no two ways end in the same slot. -/
theorem uses_one_per_way (ha : a.WellFormed) (v : Value) :
    (∀ t, t ∈ a.uses v ↔ a.Reaches v t) ∧
    (∀ t, {way | a.follow v way = some t}.encard = (a.uses v).count t) ∧
    a.uses v = v.operands ++ v.operands.flatMap (fun s => a.uses (a.get s)) ∧
    ((a.uses v).Nodup ↔
      ∀ t way way', a.follow v way = some t → a.follow v way' = some t → way = way') := by
  refine ⟨fun _ => ha.acyclic.mem_uses_iff, ha.acyclic.encard_follow v, ?_,
    ha.acyclic.nodup_uses_iff v⟩
  cases v with
  | leaf l => rfl
  | expr n => exact ha.acyclic.uses_expr n

/-- The product comes to the sum's first operand through two slots. The double has one slot for
both its operands, and that counts as two ways as well; to the slots under the negation there is
one way each. -/
theorem uses_one_per_way_shared :
    let product := Value.expr (.binary .mul ⟨2⟩ ⟨3⟩)
    let double := Value.expr (.binary .add ⟨2⟩ ⟨2⟩)
    let negation := Value.expr (.unary .neg ⟨2⟩)
    shared.WellFormed ∧
    {way | shared.follow product way = some ⟨0⟩}.encard = 2 ∧
    shared.follow product [0, 0] = some ⟨0⟩ ∧ shared.follow product [1, 0] = some ⟨0⟩ ∧
    {way | shared.follow double way = some ⟨2⟩}.encard = 2 ∧ ¬ (shared.uses double).Nodup ∧
    ∀ t way way', shared.follow negation way = some t → shared.follow negation way' = some t →
      way = way' := by
  intro product double negation
  have hshared : shared.WellFormed := reachable_shared.wellFormed
  obtain ⟨-, hproduct, -, -⟩ := uses_one_per_way hshared product
  obtain ⟨-, hdouble, -, hrepeated⟩ := uses_one_per_way hshared double
  obtain ⟨-, -, -, hnegation⟩ := uses_one_per_way hshared negation
  refine ⟨hshared, ?_, rfl, rfl, ?_, ?_, hnegation.mp (by decide)⟩
  · have hcount : (shared.uses product).count ⟨0⟩ = 2 := by decide
    rw [hproduct, hcount]
    rfl
  · have hcount : (shared.uses double).count ⟨2⟩ = 2 := by decide
    rw [hdouble, hcount]
    rfl
  · intro hnodup
    have hsame := hrepeated.mp hnodup ⟨2⟩ [0] [1] rfl rfl
    cases hsame

end Arena

end ClassAtlas
