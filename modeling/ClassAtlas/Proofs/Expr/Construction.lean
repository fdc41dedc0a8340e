import ClassAtlas.Proofs.Expr.Copies
import ClassAtlas.Proofs.Expr.InPlace
import ClassAtlas.Proofs.Expr.Rendering
import ClassAtlas.Proofs.JavaType.Dimensions

/-!
# What construction promises

The shape of an expression is checked when it is built and not again. Whatever
is then done to the arena with values that came out of it, every expression in
it keeps what the check promised, and has a slot of its own for each operand.
Types and printed dimensions of new arrays rely on that.
-/

namespace ClassAtlas

variable {α β : Type}

/-! ## Proper expressions -/

/-- A type that values can have: of a variable, but not of a method without result, of the null
reference or of nothing known. -/
def JavaType.HasValues (t : JavaType) : Prop :=
  t ≠ .void ∧ t ≠ .unknown ∧ t ≠ .null

def Node.Proper : Node α → Prop
  | .cast _ type => type.HasValues
  | .instanceOf _ type => (∃ c, type = .named c) ∨ ∃ a, type = .array a
  | .newArray element _ => element.HasValues
  | .newMultiArray type sizes => sizes.length ≤ type.dimensions.toNat
  | .invoke kind method base args =>
    (base.isSome ↔ kind ≠ .static) ∧ args.length = method.params.length
  | .binary .. | .unary .. | .new .. => True

/-- An expression as it comes out of construction. -/
def Value.Proper : Value → Prop
  | .leaf _ => True
  | .expr n => n.Proper ∧ n.operands.Nodup

theorem JavaType.isStorable_iff {t : JavaType} : t.isStorable = true ↔ t.HasValues := by
  cases t <;> simp [isStorable, HasValues]

theorem JavaType.isReference_iff {t : JavaType} :
    t.isReference = true ↔ (∃ c, t = .named c) ∨ ∃ a, t = .array a := by
  cases t <;> simp [isReference]

theorem InvokeKind.hasBase_iff {k : InvokeKind} : k.hasBase = true ↔ k ≠ .static := by
  simp [hasBase]

namespace Node

/-- The check lets through exactly the proper nodes. -/
theorem fault?_eq_none_iff {n : Node α} : n.fault? = none ↔ n.Proper := by
  cases n with
  | cast | newArray =>
    rw [Proper, ← JavaType.isStorable_iff]
    simp [fault?]
  | instanceOf operand type =>
    rw [Proper, ← JavaType.isReference_iff]
    simp [fault?]
  | newMultiArray type sizes => simp [fault?, Proper]
  | invoke kind method base args =>
    have hbase : (base.isSome = true ↔ kind ≠ .static) ↔ kind.hasBase = base.isSome := by
      rw [← InvokeKind.hasBase_iff]
      exact Iff.comm.trans Bool.eq_iff_iff.symm
    rw [Proper, hbase, fault?]
    by_cases hkind : kind.hasBase = base.isSome
    · simp [hkind]
    · simp [hkind]
  | binary | unary | new => simp [fault?, Proper]

/-- Only the head and the number of operands count. -/
theorem Proper.of_head {n : Node α} {m : Node β} (h : n.Proper) (hhead : m.head = n.head)
    (hlength : m.operands.length = n.operands.length) : m.Proper := by
  cases n <;> cases m <;> simp only [head, reduceCtorEq] at hhead
  case invoke.invoke kind method base args _ _ base' args' =>
    simp only [Head.invoke.injEq] at hhead
    obtain ⟨rfl, rfl, hbase⟩ := hhead
    have hargs : args'.length = args.length := by
      cases base <;> cases base' <;> simp_all [operands]
    exact ⟨hbase ▸ h.1, hargs ▸ h.2⟩
  all_goals simp_all [Proper]

end Node

/-! ## Proper arenas -/

/-- All nodes of the tree are proper. -/
inductive Tree.Proper : Tree → Prop where
  | leaf (l : Leaf) : Proper (.leaf l)
  | node {n : Node (Slot × Tree)} (h : n.Proper) (hoperands : ∀ t ∈ n.operands, Proper t.2) :
      Proper (.node n)

namespace Arena

variable {a b : Arena} {v : Value}

/-- All values in slots are proper. -/
def Proper (a : Arena) : Prop :=
  ∀ v ∈ a.slots, v.Proper

theorem Proper.of_get? (ha : a.Proper) {s : Slot} (h : a.get? s = some v) : v.Proper :=
  ha v (List.mem_of_getElem? h)

theorem Proper.get (ha : a.Proper) (s : Slot) : (a.get s).Proper := by
  by_cases hs : s.index < a.size
  · exact ha.of_get? (get?_eq_some_get hs)
  · rw [get_of_size_le (Nat.le_of_not_lt hs)]
    trivial

theorem Proper.push (ha : a.Proper) (hv : v.Proper) : (a.push v).2.Proper := by
  intro w hw
  rcases List.mem_append.mp hw with hw | hw
  · exact ha w hw
  · obtain rfl := List.mem_singleton.mp hw
    exact hv

theorem Proper.set (ha : a.Proper) (s : Slot) (hv : v.Proper) : (a.set s v).Proper := by
  intro w hw
  rcases List.mem_or_eq_of_mem_set hw with hw | rfl
  · exact ha w hw
  · exact hv

theorem Proper.tree (hp : a.Proper) (ha : a.Acyclic) (hv : v.Proper) : (a.tree v).Proper := by
  induction v using ha.induction with
  | leaf l => exact .leaf l
  | expr n ih =>
    rw [ha.tree_expr]
    refine .node (hv.1.of_head (by simp) (by simp)) ?_
    intro t ht
    rw [Node.operands_map] at ht
    obtain ⟨s, hs, rfl⟩ := List.mem_map.mp ht
    exact ih s hs (hp.get s)

theorem nodup_consecutive (start count : Nat) :
    ((List.range' start count).map Slot.mk).Nodup :=
  List.Nodup.map (fun _ _ heq => congrArg Slot.index heq) List.nodup_range'

/-- The slots of copied operands are new, and no two of them are the same. -/
theorem CopiedAll.nodup {ts : List Tree} {ss : List Slot} (h : a.CopiedAll b ts ss) :
    ss.Nodup := by
  have hnew : (a.newSlots b).Nodup := nodup_consecutive _ _
  have hslots := (List.nodup_flatMap.mp (h.uses.nodup_iff.mpr hnew)).2
  refine hslots.imp fun {s t} hdisjoint heq => ?_
  exact hdisjoint List.mem_cons_self (heq ▸ List.mem_cons_self)

theorem Proper.mapList_graft {operands : List (Slot × Tree)}
    (h : ∀ operand ∈ operands, ∀ b : Arena, b.WellFormed → b.Proper →
      (operand.2.graft b).2.Proper ∧ (operand.2.graft b).1.Proper)
    (ha : a.WellFormed) (hp : a.Proper) :
    (Node.mapList (fun operand => Tree.graftOperand operand.2.graft) operands a).2.Proper := by
  induction operands generalizing a with
  | nil => exact hp
  | cons operand operands ih =>
    obtain ⟨hgrafted, hroot⟩ := h operand List.mem_cons_self a ha hp
    obtain ⟨hwf, -, hover⟩ := operand.2.wellFormed_graft ha
    exact ih (fun other hother => h other (List.mem_cons_of_mem _ hother)) (hwf.push hover)
      (hgrafted.push hroot)

/-- A tree of proper nodes is written as proper expressions. -/
theorem Proper.graft {t : Tree} (ht : t.Proper) (ha : a.WellFormed) (hp : a.Proper) :
    (t.graft a).2.Proper ∧ (t.graft a).1.Proper := by
  induction ht generalizing a with
  | leaf l => exact ⟨hp, trivial⟩
  | @node n hn _ ih =>
    have hcopied : a.CopiedAll _ (n.operands.map (·.2))
        (Node.mapList (fun operand => Tree.graftOperand operand.2.graft) n.operands a).1 :=
      copiedAll_mapList (fun operand _ b hb => hb.copied_graft operand.2) ha
    rw [Tree.graft_node]
    refine ⟨?_, hn.of_head (Node.head_mapState _ _ _) ?_, ?_⟩
    · rw [Node.snd_mapState]
      exact Proper.mapList_graft (fun operand hoperand b hb hpb => ih operand hoperand hb hpb) ha hp
    · rw [Node.operands_mapState, Node.length_mapList]
    · rw [Node.operands_mapState]
      exact hcopied.nodup

/-! ## Edits -/

theorem Proper.replace (hp : a.Proper) (hv : v.Proper) {s : Slot} {old : Value}
    (h : a.replace s v = .ok (old, b)) : b.Proper ∧ old.Proper := by
  obtain ⟨hold, -, rfl⟩ := replace_eq_ok_iff.mp h
  exact ⟨hp.set s hv, hp.of_get? hold⟩

theorem Proper.build (hp : a.Proper) {n : Node Value} {m : Node Slot}
    (hn : ∀ v ∈ n.operands, v.Proper) (h : a.build n = .ok (m, b)) :
    b.Proper ∧ (Value.expr m).Proper := by
  obtain ⟨hhead, hoperands, hslots⟩ := build_eq_ok h
  have hproper : n.Proper := by
    rw [Arena.build] at h
    split at h
    · cases h
    · next hfault => exact Node.fault?_eq_none_iff.mp hfault
  refine ⟨?_, hproper.of_head hhead (by simp [hoperands]), ?_⟩
  · intro v hv
    rw [hslots] at hv
    exact (List.mem_append.mp hv).elim (hp v) (hn v)
  · rw [hoperands]
    exact nodup_consecutive _ _

end Arena

/-- The values that are given back. -/
def Outcome.values : Outcome → List Value
  | value v => [v]
  | slot _ | failure _ => []

theorem Outcome.mem_slots {o : Outcome} {v : Value} (hv : v ∈ o.values) {s : Slot}
    (hs : s ∈ v.operands) : s ∈ o.slots := by
  cases o with
  | value w =>
    obtain rfl := List.mem_singleton.mp hv
    exact hs
  | slot | failure => cases hv

namespace Arena

variable {a : Arena}

/-- All that an edit fed with these values can come to. -/
inductive Edited (a : Arena) (given : List Value) : Outcome × Arena → Prop where
  | pushed {v : Value} (hv : v ∈ given) : Edited a given (.slot (a.push v).1, (a.push v).2)
  | built {n : Node Value} {m : Node Slot} {b : Arena} (hn : n.operands = given)
      (h : a.build n = .ok (m, b)) : Edited a given (.value (.expr m), b)
  | replaced {s : Slot} {v old : Value} {b : Arena} (hv : v ∈ given)
      (h : a.replace s v = .ok (old, b)) : Edited a given (.value old, b)
  | copied {v : Value} (hv : v ∈ given) : Edited a given (.value (a.copy v).1, (a.copy v).2)
  | failed (e : ExprError) : Edited a given (.failure e, a)

theorem edited (a : Arena) (e : Edit) : a.Edited e.given (a.edit e) := by
  cases e with
  | push v => exact .pushed List.mem_cons_self
  | build n =>
    rw [edit]
    split
    · next h => exact .built rfl h
    · exact .failed _
  | replace s v =>
    rw [edit]
    split
    · next h => exact .replaced List.mem_cons_self h
    · exact .failed _
  | replaceOperand n index v =>
    rw [edit]
    split
    · next h =>
      obtain ⟨s, -, h⟩ := replaceOperand_eq_ok_iff.mp h
      exact .replaced List.mem_cons_self h
    · exact .failed _
  | copy v => exact .copied List.mem_cons_self

/-- Slots are never given up. -/
theorem Edited.size_le {given : List Value} {result : Outcome × Arena}
    (h : a.Edited given result) (ha : a.WellFormed) : a.size ≤ result.2.size := by
  cases h with
  | pushed => exact (a.extends_push _).size_le
  | built _ h =>
    have hsize := congrArg List.length (build_eq_ok h).2.2
    rw [List.length_append] at hsize
    exact Nat.le.intro hsize.symm
  | replaced _ h =>
    obtain ⟨-, -, rfl⟩ := replace_eq_ok_iff.mp h
    exact (size_set _ _ _).ge
  | copied => exact (ha.copied _).grows.size_le
  | failed => exact Nat.le_refl _

/-- Among proper values, an edit fed with proper values makes and gives back proper ones. -/
theorem Edited.proper {given : List Value} {result : Outcome × Arena}
    (h : a.Edited given result) (ha : a.WellFormed) (hp : a.Proper)
    (hgiven : ∀ v ∈ given, v.Proper) :
    result.2.Proper ∧ ∀ v ∈ result.1.values, v.Proper := by
  cases h with
  | pushed hv => exact ⟨hp.push (hgiven _ hv), List.forall_mem_nil _⟩
  | built hn h =>
    obtain ⟨hb, hm⟩ := hp.build (hn ▸ hgiven) h
    exact ⟨hb, List.forall_mem_singleton.mpr hm⟩
  | replaced hv h =>
    obtain ⟨hb, hold⟩ := hp.replace (hgiven _ hv) h
    exact ⟨hb, List.forall_mem_singleton.mpr hold⟩
  | copied hv =>
    obtain ⟨hb, hcopy⟩ := Proper.graft (hp.tree ha.acyclic (hgiven _ hv)) ha hp
    exact ⟨hb, List.forall_mem_singleton.mpr hcopy⟩
  | failed => exact ⟨hp, List.forall_mem_nil _⟩

end Arena

/-! ## Sessions -/

/-- An arena in use, with the values that it gave back so far. -/
structure Session where
  arena : Arena
  returned : List Value

namespace Session

variable {s : Session} {e : Edit}

def start : Session := ⟨.empty, []⟩

/-- A value that can be had: any leaf, and the expressions that are in slots or were given back. -/
def Has (s : Session) : Value → Prop
  | .leaf _ => True
  | .expr n => .expr n ∈ s.arena.slots ∨ .expr n ∈ s.returned

instance (s : Session) : (v : Value) → Decidable (s.Has v)
  | .leaf _ => inferInstanceAs (Decidable True)
  | .expr n => inferInstanceAs (Decidable (.expr n ∈ s.arena.slots ∨ .expr n ∈ s.returned))

def edit (s : Session) (e : Edit) : Session :=
  ⟨(s.arena.edit e).2, (s.arena.edit e).1.values ++ s.returned⟩

/-- Every edit is fed with values that can be had by then. -/
inductive Reachable : Session → Prop where
  | start : Reachable start
  | edit {s : Session} (h : Reachable s) (e : Edit) (hgiven : ∀ v ∈ e.given, s.Has v) :
      Reachable (s.edit e)

structure Sound (s : Session) : Prop where
  wellFormed : s.arena.WellFormed
  proper : s.arena.Proper
  isOver : ∀ v ∈ s.returned, v.Over s.arena
  returned : ∀ v ∈ s.returned, v.Proper

theorem Sound.over_of_has (hs : s.Sound) {v : Value} (hv : s.Has v) : v.Over s.arena := by
  cases v with
  | leaf l => exact fun t ht => by cases ht
  | expr n =>
    rcases hv with hstored | hreturned
    · obtain ⟨i, hi⟩ := List.mem_iff_getElem?.mp hstored
      exact hs.wellFormed.closed (s := ⟨i⟩) hi
    · exact hs.isOver _ hreturned

theorem Sound.proper_of_has (hs : s.Sound) {v : Value} (hv : s.Has v) : v.Proper := by
  cases v with
  | leaf l => trivial
  | expr n => exact hv.elim (hs.proper _) (hs.returned _)

theorem sound_start : start.Sound where
  wellFormed := Arena.wellFormed_empty
  proper _ hv := by cases hv
  isOver _ hv := by cases hv
  returned _ hv := by cases hv

theorem Sound.edit (hs : s.Sound) (hgiven : ∀ v ∈ e.given, s.Has v) : (s.edit e).Sound := by
  have hover : ∀ v ∈ e.given, v.Over s.arena := fun v hv => hs.over_of_has (hgiven v hv)
  obtain ⟨hwf, hslots⟩ := hs.wellFormed.edit hover
  obtain ⟨hproper, hvalues⟩ := (s.arena.edited e).proper hs.wellFormed hs.proper
    fun v hv => hs.proper_of_has (hgiven v hv)
  refine ⟨hwf, hproper, ?_, ?_⟩
  · intro v hv
    rcases List.mem_append.mp hv with hv | hv
    · exact fun t ht => hslots t (Outcome.mem_slots hv ht)
    · have hsize := (s.arena.edited e).size_le hs.wellFormed
      exact fun t ht => (hs.isOver v hv t ht).trans_le hsize
  · intro v hv
    exact (List.mem_append.mp hv).elim (hvalues v) (hs.returned v)

theorem Reachable.sound (h : s.Reachable) : s.Sound := by
  induction h with
  | start => exact sound_start
  | edit _ e hgiven ih => exact ih.edit hgiven

end Session

/-! ## New arrays -/

/-- A type with values can be put under one more dimension. It comes back as the element, unless it
is an array that has no dimension itself. -/
theorem JavaType.HasValues.exists_arrayOf {t : JavaType} (h : t.HasValues) :
    ∃ a : ArrayType, t.arrayOf = .ok (.array a) ∧ (a.element = t ↔ t.Sized) := by
  have hother : t ∉ [JavaType.void, .null, .unknown] := by simp [h.1, h.2.1, h.2.2]
  obtain ⟨u, hu⟩ := exists_arrayOf_iff.mpr hother
  obtain ⟨a, -, rfl⟩ := arrayOf_eq_ok_iff.mp hu
  refine ⟨a, hu, ?_⟩
  rw [← element_of_arrayOf_iff hu, element, Except.ok.injEq]

namespace Sink

theorem recorder_literal (text : String) (before : List Event) :
    recorder.literal text before = before ++ [.literal text] := rfl

theorem recorder_sizes (events : α → List Event) (xs : List α) (before : List Event) :
    recorder.sizes (xs.map fun x es => es ++ events x) before =
      before ++ (xs.map fun x => .literal "[" :: events x ++ [.literal "]"]).flatten := by
  induction xs generalizing before with
  | nil => simp [sizes]
  | cons x xs ih => simp [sizes, ih, recorder_literal]

theorem recorder_unsized (n : Nat) (before : List Event) :
    recorder.unsized n before = before ++ (List.replicate n [.literal "[]"]).flatten := by
  induction n generalizing before with
  | zero => simp [unsized]
  | succ n ih => simp [unsized, ih, recorder_literal, List.replicate_succ]

end Sink

namespace Arena

variable {a : Arena}

theorem Acyclic.type_newArray (ha : a.Acyclic) {element : JavaType} (h : element.HasValues)
    (size : Slot) :
    ∃ array, a.type (.expr (.newArray element size)) = .array array ∧
      (array.element = element ↔ element.Sized) := by
  obtain ⟨array, harray, helement⟩ := h.exists_arrayOf
  refine ⟨array, ?_, helement⟩
  rw [ha.type_expr, Node.map, Node.resultType, harray]

theorem Acyclic.events_newMultiArray (ha : a.Acyclic) (type : ArrayType) (sizes : List Slot) :
    a.events (.expr (.newMultiArray type sizes)) =
      [.literal "newmultiarray (", .type type.base.type, .literal ")"] ++
      (sizes.map fun s => .literal "[" :: a.events (a.get s) ++ [.literal "]"]).flatten ++
      (List.replicate (type.dimensions.toNat - sizes.length) [.literal "[]"]).flatten := by
  have hprint : ∀ s, (a.tree (a.get s)).print Sink.recorder = fun es => es ++ a.events (a.get s) :=
    fun s => funext fun es => Tree.print_recorder _ es
  rw [events, Tree.events, ha.print_expr, Node.map, Sink.node]
  simp only [hprint, List.length_map]
  rw [Sink.recorder_unsized, Sink.recorder_sizes]
  rfl

end Arena

namespace Session

variable {s : Session}

def cube : ArrayType := ⟨.primitive .int, 3⟩

def row : JavaType := .array ⟨.primitive .int, 1⟩

/-- What one dimension over the largest number of them makes. -/
def flat : JavaType := .array ⟨.primitive .int, 0⟩

/-- A new cube with two of its three sizes is copied, a new array of rows replaces the second size
of the copy, and an array is made of a type without dimensions. -/
def allocating : Session :=
  [Edit.build (.newMultiArray cube [.leaf (.const (.int 2)), .leaf (.const (.int 3))]),
    .copy (.expr (.newMultiArray cube [⟨0⟩, ⟨1⟩])),
    .build (.newArray row (.leaf (.const (.int 4)))),
    .replaceOperand (.newMultiArray cube [⟨2⟩, ⟨3⟩]) 1 (.expr (.newArray row ⟨4⟩)),
    .build (.newArray flat (.leaf (.const (.int 5))))
  ].foldl edit start

theorem reachable_allocating : allocating.Reachable := by
  refine .edit (.edit (.edit (.edit (.edit .start _ ?_) _ ?_) _ ?_) _ ?_) _ ?_ <;> decide

end Session

end ClassAtlas
