import ClassAtlas.Proofs.Expr.Renaming
import ClassAtlas.Proofs.Expr.Substitution
import Mathlib.Data.List.Perm.Basic

/-!
# Copies share nothing

A copy of a value takes a new slot for every way down from the value, so it is
a tree even where the value is not. It stands for the same expression, and
replacing values on one side is not seen on the other.
-/

namespace ClassAtlas

open Relation

namespace Tree

/-- The tree without regard to its slots. -/
def erase (t : Tree) : Tree :=
  t.rename fun _ => default

end Tree

namespace Arena

variable {a b c : Arena}

-- ---------------------------------------------------------------------------
-- New slots
-- ---------------------------------------------------------------------------

/-- The slots of the second arena behind those of the first. -/
def newSlots (a b : Arena) : List Slot :=
  (List.range' a.size (b.size - a.size)).map Slot.mk

@[simp] theorem newSlots_self (a : Arena) : a.newSlots a = [] := by
  simp [newSlots]

theorem mem_newSlots {s : Slot} : s ∈ a.newSlots b ↔ a.size ≤ s.index ∧ s.index < b.size := by
  obtain ⟨i⟩ := s
  simp only [newSlots, List.mem_map, List.mem_range'_1, Slot.mk.injEq, exists_eq_right]
  omega

theorem newSlots_append (hab : a.size ≤ b.size) (hbc : b.size ≤ c.size) :
    a.newSlots b ++ b.newSlots c = a.newSlots c := by
  have hstart : b.size = a.size + (b.size - a.size) := by omega
  have hlength : c.size - a.size = (b.size - a.size) + (c.size - b.size) := by omega
  unfold newSlots
  rw [← List.map_append, hlength, ← List.range'_append_1, ← hstart]

theorem newSlots_push (a : Arena) (v : Value) : a.newSlots (a.push v).2 = [(a.push v).1] := by
  simp [newSlots, push, size]

-- ---------------------------------------------------------------------------
-- What a copy is
-- ---------------------------------------------------------------------------

/-- The value stands for the tree, and its slots are the new ones of the second arena, each on
one way down only. -/
structure Copied (a b : Arena) (t : Tree) (v : Value) : Prop where
  wellFormed : b.WellFormed
  grows : a.Extends b
  isOver : v.Over b
  size : b.size = a.size + t.uses.length
  uses : (b.uses v).Perm (a.newSlots b)
  erase : (b.tree v).erase = t.erase

/-- The same for operands, each of which has a slot of its own. -/
structure CopiedAll (a b : Arena) (ts : List Tree) (ss : List Slot) : Prop where
  wellFormed : b.WellFormed
  grows : a.Extends b
  isOver : ∀ s ∈ ss, s.index < b.size
  size : b.size = a.size + (ts.length + (ts.flatMap Tree.uses).length)
  uses : (ss.flatMap fun s => s :: b.uses (b.get s)).Perm (a.newSlots b)
  erase : ss.map (fun s => (b.tree (b.get s)).erase) = ts.map Tree.erase

theorem WellFormed.copied_leaf (ha : a.WellFormed) (l : Leaf) :
    a.Copied a (.leaf l) (.leaf l) where
  wellFormed := ha
  grows := .refl a
  isOver s hs := by cases hs
  size := rfl
  uses := by simp
  erase := rfl

theorem WellFormed.copiedAll_nil (ha : a.WellFormed) : a.CopiedAll a [] [] where
  wellFormed := ha
  grows := .refl a
  isOver := by simp
  size := rfl
  uses := by simp
  erase := rfl

/-- A copy goes into the next slot, and the other operands are copied behind it. -/
theorem Copied.cons {t : Tree} {v : Value} {ts : List Tree} {ss : List Slot}
    (h : a.Copied b t v) (hrest : (b.push v).2.CopiedAll c ts ss) :
    a.CopiedAll c (t :: ts) ((b.push v).1 :: ss) := by
  have hpush : b.Extends (b.push v).2 := b.extends_push v
  have hbc : b.Extends c := hpush.trans hrest.grows
  have hget : c.get (b.push v).1 = v := get_of_get? (hrest.grows.get? (get?_push_self b v))
  have htree : c.tree v = b.tree v := hbc.tree_eq h.wellFormed hrest.wellFormed.acyclic h.isOver
  have huses : c.uses v = b.uses v := congrArg Tree.uses htree
  refine ⟨hrest.wellFormed, h.grows.trans hbc, ?_, ?_, ?_, ?_⟩
  · intro s hs
    rcases List.mem_cons.mp hs with rfl | hs
    · exact (b.lt_size_push v).trans_le hrest.grows.size_le
    · exact hrest.isOver s hs
  · have hsize := hrest.size
    rw [size_push, h.size] at hsize
    simp only [List.length_cons, List.flatMap_cons, List.length_append]
    omega
  · -- The slots below the operand, its own slot, then those of the others.
    have hfirst : ((b.push v).1 :: b.uses v).Perm (a.newSlots (b.push v).2) := by
      rw [← newSlots_append h.grows.size_le hpush.size_le, newSlots_push]
      exact (h.uses.cons _).trans (List.perm_append_singleton _ _).symm
    rw [List.flatMap_cons, hget, huses,
      ← newSlots_append (h.grows.trans hpush).size_le hrest.grows.size_le]
    exact hfirst.append hrest.uses
  · rw [List.map_cons, List.map_cons, hget, htree, h.erase, hrest.erase]

/-- Over copied operands stands a copy of the node. -/
theorem CopiedAll.expr {n : Node (Slot × Tree)} {m : Node Slot} (hhead : m.head = n.head)
    (h : a.CopiedAll b (n.operands.map (·.2)) m.operands) : a.Copied b (.node n) (.expr m) where
  wellFormed := h.wellFormed
  grows := h.grows
  isOver := h.isOver
  size := by
    rw [h.size]
    simp [List.flatMap_map]
  uses := by
    have hslots := List.map_append_flatMap_perm m.operands id fun s => b.uses (b.get s)
    rw [List.map_id] at hslots
    rw [h.wellFormed.acyclic.uses_expr]
    exact hslots.trans h.uses
  erase := by
    have herase := h.erase
    rw [List.map_map] at herase
    rw [h.wellFormed.acyclic.tree_expr, Tree.erase, Tree.erase, Tree.rename_node,
      Tree.rename_node, Node.map_map]
    refine congrArg Tree.node (Node.eq_of_head_of_operands (by simp [hhead]) ?_)
    have hpairs := congrArg (List.map fun t => ((default : Slot), t)) herase
    rw [List.map_map, List.map_map] at hpairs
    rw [Node.operands_map, Node.operands_map]
    exact hpairs

/-- Operands are copied one after the other. -/
theorem copiedAll_mapList {operands : List (Slot × Tree)}
    (h : ∀ operand ∈ operands, ∀ b : Arena, b.WellFormed →
      b.Copied (operand.2.graft b).2 operand.2 (operand.2.graft b).1) (ha : a.WellFormed) :
    a.CopiedAll (Node.mapList (fun operand => Tree.graftOperand operand.2.graft) operands a).2
      (operands.map (·.2))
      (Node.mapList (fun operand => Tree.graftOperand operand.2.graft) operands a).1 := by
  induction operands generalizing a with
  | nil => exact ha.copiedAll_nil
  | cons operand operands ih =>
    have hfirst := h operand List.mem_cons_self a ha
    refine hfirst.cons (ih (fun other hother => h other (List.mem_cons_of_mem _ hother)) ?_)
    exact hfirst.wellFormed.push hfirst.isOver

theorem WellFormed.copied_graft (ha : a.WellFormed) (t : Tree) :
    a.Copied (t.graft a).2 t (t.graft a).1 := by
  induction t using Tree.induction generalizing a with
  | leaf l => exact ha.copied_leaf l
  | node n ih =>
    have hall := copiedAll_mapList (fun operand hoperand b hb => ih operand hoperand hb) ha
    rw [← Node.snd_mapState, ← Node.operands_mapState] at hall
    rw [Tree.graft_node]
    exact hall.expr (Node.head_mapState _ _ _)

theorem WellFormed.copied (ha : a.WellFormed) (v : Value) :
    a.Copied (a.copy v).2 (a.tree v) (a.copy v).1 :=
  ha.copied_graft (a.tree v)

-- ---------------------------------------------------------------------------
-- What a copy has in common with the value
-- ---------------------------------------------------------------------------

namespace Copied

variable {t : Tree} {v : Value}

theorem shape_eq (h : a.Copied b t v) : b.shape v = t.shape := by
  have hshape := congrArg Tree.shape h.erase
  rwa [Tree.erase, Tree.erase, Tree.shape_rename, Tree.shape_rename] at hshape

theorem type_eq (h : a.Copied b t v) : b.type v = t.type := by
  have htype := congrArg Tree.type h.erase
  rwa [Tree.erase, Tree.erase, Tree.type_rename, Tree.type_rename] at htype

theorem events_eq (h : a.Copied b t v) : b.events v = t.events := by
  have hevents := congrArg Tree.events h.erase
  rwa [Tree.erase, Tree.erase, Tree.events_rename, Tree.events_rename] at hevents

theorem length_uses (h : a.Copied b t v) : (b.uses v).length = t.uses.length := by
  have huses := congrArg Tree.uses h.erase
  rw [Tree.erase, Tree.erase, Tree.uses_rename, Tree.uses_rename] at huses
  have hlength := congrArg List.length huses
  rwa [List.length_map, List.length_map] at hlength

theorem le_of_mem_uses (h : a.Copied b t v) {s : Slot} (hs : s ∈ b.uses v) : a.size ≤ s.index :=
  (mem_newSlots.mp (h.uses.mem_iff.mp hs)).1

theorem le_of_mem_operands (h : a.Copied b t v) {s : Slot} (hs : s ∈ v.operands) :
    a.size ≤ s.index := by
  apply h.le_of_mem_uses
  rw [h.wellFormed.acyclic.mem_uses_iff]
  exact reaches_iff.mpr (.inl hs)

end Copied

/-- Only what has no operands is the same value as its copy. -/
theorem WellFormed.copy_eq_iff (ha : a.WellFormed) {v : Value} (hv : v.Over a) :
    (a.copy v).1 = v ↔ v.operands = [] := by
  constructor
  · intro heq
    rw [List.eq_nil_iff_forall_not_mem]
    intro s hs
    have hold : s.index < a.size := hv s hs
    have hnew : a.size ≤ s.index := (ha.copied v).le_of_mem_operands (heq.symm ▸ hs)
    omega
  · intro hnone
    cases v with
    | leaf l => rfl
    | expr n =>
      have hempty : n.operands = [] := hnone
      rw [copy, ha.acyclic.tree_expr, Tree.graft_node]
      refine congrArg Value.expr (Node.eq_of_head_of_operands (by simp) ?_)
      rw [Node.operands_mapState, Node.operands_map, hempty]
      rfl

-- ---------------------------------------------------------------------------
-- Rewriting
-- ---------------------------------------------------------------------------

/-- The value of a slot with the property is replaced. -/
def RewritesOnce (P : Slot → Prop) (a b : Arena) : Prop :=
  ∃ s v old, P s ∧ a.replace s v = .ok (old, b)

/-- Values of slots with the property are replaced, one after the other. -/
abbrev Rewrites (P : Slot → Prop) : Arena → Arena → Prop :=
  ReflTransGen (RewritesOnce P)

/-- From slots with the property only such slots are read. -/
def Closed (a : Arena) (Q : Slot → Prop) : Prop :=
  ∀ {s t : Slot}, Q s → a.Reads s t → Q t

theorem Closed.of_mem_uses {Q : Slot → Prop} (hQ : a.Closed Q) (ha : a.Acyclic) {v : Value}
    (hv : ∀ s ∈ v.operands, Q s) {s : Slot} (hs : s ∈ a.uses v) : Q s := by
  obtain ⟨t, ht, hpath⟩ := ha.mem_uses_iff.mp hs
  induction hpath with
  | refl => exact hv t ht
  | tail hbefore hlast ih =>
    exact hQ (ih (ha.mem_uses_iff.mpr ⟨t, ht, hbefore⟩)) hlast

/-- A replacement somewhere else is not seen from closed slots. -/
theorem RewritesOnce.frame {P Q : Slot → Prop} (h : RewritesOnce P a b)
    (hPQ : ∀ s, P s → ¬ Q s) (ha : a.Acyclic) (hQ : a.Closed Q) :
    b.Acyclic ∧ b.Closed Q ∧ ∀ v : Value, (∀ s ∈ v.operands, Q s) → b.tree v = a.tree v := by
  obtain ⟨s, w, old, hs, hreplace⟩ := h
  obtain ⟨hget, huses, rfl⟩ := replace_eq_ok_iff.mp hreplace
  refine ⟨ha.set (ha.mem_uses_iff.not.mp huses), ?_, ?_⟩
  · intro x y hx hread
    have hne : x ≠ s := by
      rintro rfl
      exact hPQ x hs hx
    rw [reads_iff, get_set_of_ne hne, ← reads_iff] at hread
    exact hQ hx hread
  · intro v hv
    apply ha.tree_set_of_not_mem_uses (lt_size_of_get? hget) huses
    intro hmem
    exact hPQ s hs (hQ.of_mem_uses ha hv hmem)

theorem Rewrites.tree_eq {P Q : Slot → Prop} (h : Rewrites P a b) (hPQ : ∀ s, P s → ¬ Q s)
    (ha : a.Acyclic) (hQ : a.Closed Q) {v : Value} (hv : ∀ s ∈ v.operands, Q s) :
    b.tree v = a.tree v := by
  have hframe : b.Acyclic ∧ b.Closed Q ∧ b.tree v = a.tree v := by
    induction h with
    | refl => exact ⟨ha, hQ, rfl⟩
    | tail _ hlast ih =>
      obtain ⟨hacyclic, hclosed, hkept⟩ := hlast.frame hPQ ih.1 ih.2.1
      exact ⟨hacyclic, hclosed, (hkept v hv).trans ih.2.2⟩
  exact hframe.2.2

/-- What was there before a copy does not read the copy's slots. -/
theorem Copied.closed_old {t : Tree} {v : Value} (h : a.Copied b t v) (ha : a.WellFormed) :
    b.Closed (·.index < a.size) := by
  rintro s u hs ⟨w, hw, hu⟩
  have hold : a.get? s = some (a.get s) := get?_eq_some_get hs
  obtain rfl : a.get s = w := Option.some.inj ((h.grows.get? hold).symm.trans hw)
  exact ha.closed hold u hu

/-- All new slots are the copy's, so nothing else is read from them. -/
theorem Copied.closed_new {t : Tree} {v : Value} (h : a.Copied b t v) :
    b.Closed (a.size ≤ ·.index) := by
  intro s u hs hread
  have hlt : s.index < b.size := by
    obtain ⟨w, hw, -⟩ := hread
    exact lt_size_of_get? hw
  have hused : s ∈ b.uses v := h.uses.mem_iff.mpr (mem_newSlots.mpr ⟨hs, hlt⟩)
  obtain ⟨x, hx, hpath⟩ := h.wellFormed.acyclic.mem_uses_iff.mp hused
  exact h.le_of_mem_uses (h.wellFormed.acyclic.mem_uses_iff.mpr ⟨x, hx, hpath.tail hread⟩)

/-- The value has the same text, slots and shape in both arenas. -/
structure Unchanged (a b : Arena) (v : Value) : Prop where
  text : ∀ style, b.text style v = a.text style v
  uses : b.uses v = a.uses v
  shape : b.shape v = a.shape v

theorem Unchanged.of_tree_eq {v : Value} (h : b.tree v = a.tree v) : a.Unchanged b v where
  text style := congrArg (Tree.text style) h
  uses := congrArg Tree.uses h
  shape := congrArg Tree.shape h

/-- A copy has exactly the new slots, each once, however often the value comes to one slot. It
agrees with the value in all but its slots, and is not equal to it unless there are none. Whatever
is put into slots of the one later on, the other does not change. -/
theorem copy_unshared (ha : a.WellFormed) {v : Value} (hv : v.Over a) :
    let w := (a.copy v).1
    let b := (a.copy v).2
    a.Extends b ∧ b.size = a.size + (a.uses v).length ∧
    (b.uses w).Perm ((List.range' a.size (a.uses v).length).map Slot.mk) ∧
    b.tree v = a.tree v ∧
    b.shape w = b.shape v ∧ b.type w = b.type v ∧ b.events w = b.events v ∧
    (b.uses w).length = (b.uses v).length ∧
    (w = v ↔ v.operands = []) ∧
    (∀ c, Rewrites (·.index < a.size) b c → b.Unchanged c w) ∧
    (∀ c, Rewrites (a.size ≤ ·.index) b c → b.Unchanged c v) := by
  intro w b
  have hcopied : a.Copied b (a.tree v) w := ha.copied v
  have hb : b.Acyclic := hcopied.wellFormed.acyclic
  have htree : b.tree v = a.tree v := hcopied.grows.tree_eq ha hb hv
  have hnew : a.newSlots b = (List.range' a.size (a.uses v).length).map Slot.mk := by
    rw [newSlots, hcopied.size, Nat.add_sub_cancel_left]
    rfl
  refine ⟨hcopied.grows, hcopied.size, hnew ▸ hcopied.uses, htree, ?_, ?_, ?_, ?_,
    ha.copy_eq_iff hv, ?_, ?_⟩
  · exact hcopied.shape_eq.trans (congrArg Tree.shape htree).symm
  · exact hcopied.type_eq.trans (congrArg Tree.type htree).symm
  · exact hcopied.events_eq.trans (congrArg Tree.events htree).symm
  · exact hcopied.length_uses.trans (congrArg (fun t => t.uses.length) htree).symm
  · intro c hc
    refine .of_tree_eq (hc.tree_eq ?_ hb hcopied.closed_new ?_)
    · intro s hs
      omega
    · intro s hs
      exact hcopied.le_of_mem_operands hs
  · intro c hc
    refine .of_tree_eq (hc.tree_eq ?_ hb (hcopied.closed_old ha) hv)
    intro s hs
    omega

/-- The product comes to the slots of the sum's operands twice, its copy has six slots. Another
operand for the sum is seen in the product only, one for a copied sum only in the copy. -/
theorem copy_unshared_shared :
    let product := Value.expr (.binary .mul ⟨2⟩ ⟨3⟩)
    let w := (shared.copy product).1
    let b := (shared.copy product).2
    w = .expr (.binary .mul ⟨6⟩ ⟨9⟩) ∧ b.uses w = [⟨6⟩, ⟨9⟩, ⟨4⟩, ⟨5⟩, ⟨7⟩, ⟨8⟩] ∧
    b.shape w = b.shape product ∧
    (∃ old c, b.replace ⟨0⟩ (.expr (.unary .neg ⟨1⟩)) = .ok (old, c) ∧
      c.shape product ≠ b.shape product ∧ b.Unchanged c w) ∧
    (∃ old c, b.replace ⟨4⟩ (.expr (.unary .neg ⟨8⟩)) = .ok (old, c) ∧
      c.shape w ≠ b.shape w ∧ b.Unchanged c product) := by
  intro product w b
  have hcopy := copy_unshared (v := product) reachable_shared.wellFormed (by decide)
  obtain ⟨-, -, -, -, hshape, -, -, -, -, hw, hproduct⟩ := hcopy
  refine ⟨by decide, by decide, hshape, ⟨_, _, rfl, by decide, ?_⟩, ⟨_, _, rfl, by decide, ?_⟩⟩
  · exact hw _ (.single ⟨⟨0⟩, .expr (.unary .neg ⟨1⟩), _, by decide, rfl⟩)
  · exact hproduct _ (.single ⟨⟨4⟩, .expr (.unary .neg ⟨8⟩), _, by decide, rfl⟩)

end Arena

end ClassAtlas
