import ClassAtlas.Proofs.Expr.Edits

/-!
# Changes in place

A value is refused for a slot exactly if it would close a cycle. Done step by
step on an arena that is changed in place, a change that fails has not touched
the arena: everything is checked before the first slot is made or written.
-/

namespace ClassAtlas

open Relation

/-! ## Step by step -/

/-- Works on an arena in place. What is done before a failure stays done. -/
abbrev InPlace (α : Type) :=
  EStateM ExprError Arena α

namespace InPlace

def newSlot (v : Value) : InPlace Slot :=
  modifyGet (·.push v)

def require (condition : Prop) [Decidable condition] (otherwise : ExprError) : InPlace Unit :=
  if condition then pure () else throw otherwise

/-- Checks what has to be checked and makes the slots, one after the other. -/
def build : Node Value → InPlace (Node Slot)
  | .binary op left right => do
    let left ← newSlot left
    let right ← newSlot right
    return .binary op left right
  | .unary op operand => do
    let operand ← newSlot operand
    return .unary op operand
  | .cast operand type => do
    require type.isStorable (.castTo type)
    let operand ← newSlot operand
    return .cast operand type
  | .instanceOf operand type => do
    require type.isReference (.instanceOf type)
    let operand ← newSlot operand
    return .instanceOf operand type
  | .new name => return .new name
  | .newArray element size => do
    require element.isStorable (.arrayOf element)
    let size ← newSlot size
    return .newArray element size
  | .newMultiArray type sizes => do
    require (sizes.length ≤ type.dimensions.toNat) (.tooManySizes sizes.length type)
    let sizes ← sizes.mapM newSlot
    return .newMultiArray type sizes
  | .invoke kind method base args => do
    require (kind.hasBase = base.isSome) (.base kind method)
    require (args.length = method.params.length) (.arguments method args.length)
    let base ← base.mapM newSlot
    let args ← args.mapM newSlot
    return .invoke kind method base args

def replace (s : Slot) (v : Value) : InPlace Value := do
  let a ← get
  match a.get? s with
  | none => throw (.foreignSlot s)
  | some old =>
    require (s ∉ a.uses v) (.containsItself s)
    set (a.set s v)
    return old

def replaceOperand (n : Node Slot) (index : Nat) (v : Value) : InPlace Value :=
  match n.operandSlot index with
  | .ok slot => replace slot v
  | .error e => throw e

def edit : Edit → InPlace Outcome
  | .push v => do
    let slot ← newSlot v
    return .slot slot
  | .build n => do
    let n ← build n
    return .value (.expr n)
  | .replace s v => do
    let old ← replace s v
    return .value old
  | .replaceOperand n index v => do
    let old ← replaceOperand n index v
    return .value old
  | .copy v => do
    let copy ← modifyGet (·.copy v)
    return .value copy

/-! ## What the steps come to -/

/-- What becomes of a change that leaves the arena alone if it fails. -/
def settled {α : Type} (a : Arena) :
    Except ExprError (α × Arena) → EStateM.Result ExprError Arena α
  | .ok (x, b) => .ok x b
  | .error e => .error e a

theorem run_newSlot (v : Value) (a : Arena) :
    (newSlot v).run a = .ok (a.push v).1 (a.push v).2 := rfl

theorem run_mapM_newSlot (vs : List Value) (a : Arena) :
    (vs.mapM newSlot).run a = .ok (Node.mapList (fun v a => a.push v) vs a).1
      (Node.mapList (fun v a => a.push v) vs a).2 := by
  induction vs generalizing a with
  | nil => rfl
  | cons v vs ih =>
    rw [List.mapM_cons, EStateM.run_bind, run_newSlot]
    simp only [EStateM.run_bind, ih]
    rfl

/-- A requirement that is met changes nothing, and one that is not met ends it all. -/
theorem run_require_bind {α : Type} (condition : Prop) [Decidable condition] (e : ExprError)
    (next : Unit → InPlace α) (a : Arena) :
    (require condition e >>= next).run a =
      if condition then (next ()).run a else .error e a := by
  unfold require
  split <;> rfl

/-- Nothing is made before the last check. -/
theorem run_build (n : Node Value) (a : Arena) : (build n).run a = settled a (a.build n) := by
  rw [Arena.build]
  cases n with
  | binary | unary | new => rfl
  | cast | instanceOf | newArray =>
    rw [build, run_require_bind, Node.fault?]
    split <;> rfl
  | newMultiArray type sizes =>
    rw [build, run_require_bind, Node.fault?]
    split
    · rw [EStateM.run_bind, run_mapM_newSlot]
      rfl
    · rfl
  | invoke kind method base args =>
    rw [build, run_require_bind, run_require_bind, Node.fault?, ite_not, ite_not]
    split
    · split
      · cases base with
        | none =>
          rw [Option.mapM_none, pure_bind, EStateM.run_bind, run_mapM_newSlot]
          rfl
        | some base =>
          rw [Option.mapM_some, bind_map_left, EStateM.run_bind, run_newSlot]
          dsimp only
          rw [EStateM.run_bind, run_mapM_newSlot]
          rfl
      · rfl
    · rfl

theorem run_replace (s : Slot) (v : Value) (a : Arena) :
    (replace s v).run a = settled a (a.replace s v) := by
  rw [replace, EStateM.run_bind, EStateM.run_get, Arena.replace]
  dsimp only
  cases a.get? s with
  | none => rfl
  | some old =>
    dsimp only
    rw [run_require_bind, ite_not]
    split <;> rfl

theorem run_replaceOperand (n : Node Slot) (index : Nat) (v : Value) (a : Arena) :
    (replaceOperand n index v).run a = settled a (a.replaceOperand n index v) := by
  rw [replaceOperand, Arena.replaceOperand]
  cases n.operandSlot index with
  | ok slot => exact run_replace slot v a
  | error e => rfl

/-- A failed edit is an error, with the arena as it is by then. -/
def finished : Outcome × Arena → EStateM.Result ExprError Arena Outcome
  | (.failure e, a) => .error e a
  | (outcome, a) => .ok outcome a

theorem run_edit (e : Edit) (a : Arena) : (edit e).run a = finished (a.edit e) := by
  cases e with
  | push v => rfl
  | build n =>
    rw [edit, EStateM.run_bind, run_build, Arena.edit]
    rcases a.build n with e | ⟨m, b⟩ <;> rfl
  | replace s v =>
    rw [edit, EStateM.run_bind, run_replace, Arena.edit]
    rcases a.replace s v with e | ⟨old, b⟩ <;> rfl
  | replaceOperand n index v =>
    rw [edit, EStateM.run_bind, run_replaceOperand, Arena.edit]
    rcases a.replaceOperand n index v with e | ⟨old, b⟩ <;> rfl
  | copy v => rfl

theorem finished_eq_error_iff {x : Outcome × Arena} {e : ExprError} {b : Arena} :
    finished x = .error e b ↔ x = (.failure e, b) := by
  obtain ⟨outcome, a⟩ := x
  cases outcome <;> simp [finished]

end InPlace

namespace Arena

variable {a b : Arena}

/-! ## Cycles -/

/-- A way to a slot is still there after its value was replaced: only its end is changed. -/
theorem path_to_set {s t : Slot} (v : Value) (h : ReflTransGen a.Reads t s) :
    ReflTransGen (a.set s v).Reads t s := by
  induction h using ReflTransGen.head_induction_on with
  | refl => exact .refl
  | @head x y hread _ ih =>
    by_cases hxs : x = s
    · rw [hxs]
    · obtain ⟨w, hw, hy⟩ := hread
      rw [← get?_set_of_ne a v (Ne.symm hxs)] at hw
      exact .head ⟨w, hw, hy⟩ ih

/-- Whether a value closes a cycle is seen before it is put into the slot. -/
theorem Acyclic.set_iff (ha : a.Acyclic) {s : Slot} (hs : s.index < a.size) (v : Value) :
    (a.set s v).Acyclic ↔ ¬ a.Reaches v s := by
  constructor
  · rintro hset ⟨t, ht, hpath⟩
    have hread : (a.set s v).Reads s t := ⟨v, get?_set_self a v hs, ht⟩
    exact hset s (.head' hread (path_to_set v hpath))
  · exact ha.set

theorem Acyclic.exists_replace_iff (ha : a.Acyclic) {s : Slot} {v : Value} :
    (∃ old b, a.replace s v = .ok (old, b)) ↔ s.index < a.size ∧ (a.set s v).Acyclic := by
  constructor
  · rintro ⟨old, b, h⟩
    obtain ⟨hold, huses, -⟩ := replace_eq_ok_iff.mp h
    have hs : s.index < a.size := lt_size_of_get? hold
    rw [ha.mem_uses_iff, ← ha.set_iff hs] at huses
    exact ⟨hs, huses⟩
  · rintro ⟨hs, hset⟩
    rw [ha.set_iff hs, ← ha.mem_uses_iff] at hset
    exact ⟨a.get s, a.set s v, replace_eq_ok_iff.mpr ⟨get?_eq_some_get hs, hset, rfl⟩⟩

theorem exists_replaceOperand_iff {n : Node Slot} {index : Nat} {v : Value} :
    (∃ old b, a.replaceOperand n index v = .ok (old, b)) ↔
      ∃ h : index < n.operands.length, ∃ old b, a.replace n.operands[index] v = .ok (old, b) := by
  simp only [replaceOperand_eq_ok_iff, List.getElem?_eq_some_iff]
  constructor
  · rintro ⟨old, b, s, ⟨hindex, rfl⟩, h⟩
    exact ⟨hindex, old, b, h⟩
  · rintro ⟨hindex, old, b, h⟩
    exact ⟨old, b, _, ⟨hindex, rfl⟩, h⟩

/-! ## New slots -/

theorem mapList_push (vs : List Value) (a : Arena) :
    Node.mapList (fun v a => a.push v) vs a =
      ((List.range' a.size vs.length).map Slot.mk, ⟨a.slots ++ vs⟩) := by
  induction vs generalizing a with
  | nil => simp
  | cons v vs ih =>
    rw [Node.mapList_cons, ih, size_push]
    simp [push, List.range'_succ]

/-- An expression gets the next slots for its operands, in their order. -/
theorem build_eq_ok {n : Node Value} {m : Node Slot} (h : a.build n = .ok (m, b)) :
    m.head = n.head ∧ m.operands = (List.range' a.size n.operands.length).map Slot.mk ∧
      b.slots = a.slots ++ n.operands := by
  have hstore : a.store n = (m, b) := by
    rw [build] at h
    split at h
    · cases h
    · exact Except.ok.inj h
  have hoperands := Node.operands_mapState (fun v a => a.push v) n a
  have harena := Node.snd_mapState (fun v a => a.push v) n a
  have hhead := Node.head_mapState (fun v a => a.push v) n a
  rw [mapList_push, ← store, hstore] at hoperands harena
  rw [← store, hstore] at hhead
  exact ⟨hhead, hoperands, congrArg slots harena⟩

/-! ## All or nothing -/

theorem eq_of_edit_eq_failure {e : Edit} {failure : ExprError}
    (h : a.edit e = (.failure failure, b)) : b = a := by
  cases e with
  | push | copy => cases h
  | build | replace | replaceOperand =>
    rw [edit] at h
    split at h
    · cases h
    · cases h
      rfl

/-- Replacement succeeds exactly for slots of the arena whose new value closes no cycle, and then
changes nothing but the slot; replacement of an operand is that of its slot. Every edit does in
place what it does at once, and if it fails on the way, the arena is still the old one. What is
built has its operands in the next slots. -/
theorem changes_all_or_nothing (ha : a.WellFormed) :
    (∀ s v, (∃ old b, a.replace s v = .ok (old, b)) ↔
      s.index < a.size ∧ (a.set s v).Acyclic) ∧
    (∀ s v old b, a.replace s v = .ok (old, b) → a.get? s = some old ∧ b.get? s = some v ∧
      (∀ t, t ≠ s → b.get? t = a.get? t) ∧ b.size = a.size) ∧
    (∀ n index v, (∃ old b, a.replaceOperand n index v = .ok (old, b)) ↔
      ∃ h : index < n.operands.length, ∃ old b, a.replace n.operands[index] v = .ok (old, b)) ∧
    (∀ e, (InPlace.edit e).run a = InPlace.finished (a.edit e)) ∧
    (∀ e failure b, (InPlace.edit e).run a = .error failure b → b = a) ∧
    (∀ n m b, a.build n = .ok (m, b) → m.head = n.head ∧
      m.operands = (List.range' a.size n.operands.length).map Slot.mk ∧
      b.slots = a.slots ++ n.operands) := by
  refine ⟨?_, ?_, ?_, ?_, ?_, ?_⟩
  · intro s v
    exact ha.acyclic.exists_replace_iff
  · intro s v old b h
    obtain ⟨hold, -, rfl⟩ := replace_eq_ok_iff.mp h
    exact ⟨hold, get?_set_self a v (lt_size_of_get? hold),
      fun t hts => get?_set_of_ne a v (Ne.symm hts), size_set a s v⟩
  · intro n index v
    exact exists_replaceOperand_iff
  · intro e
    exact InPlace.run_edit e a
  · intro e failure b h
    rw [InPlace.run_edit, InPlace.finished_eq_error_iff] at h
    exact eq_of_edit_eq_failure h
  · intro n m b h
    exact build_eq_ok h

/-- The product cannot go below itself, but a slot can hold what is not above it. A call that lacks
its argument leaves no slot for its base, and a complete one takes the next two slots. -/
theorem changes_all_or_nothing_shared :
    let product := Value.expr (.binary .mul ⟨2⟩ ⟨3⟩)
    let one := Value.leaf (.const (.int 1))
    let equals : MethodRef := ⟨.object, "equals", [.named .object], .primitive .boolean⟩
    ¬ (shared.set ⟨0⟩ product).Acyclic ∧
    (shared.set ⟨3⟩ (.expr (.unary .neg ⟨2⟩))).Acyclic ∧
    (InPlace.edit (.build (.invoke .virtual equals (some product) []))).run shared =
      .error (.arguments equals 0) shared ∧
    (∃ m b, shared.build (.invoke .virtual equals (some product) [one]) = .ok (m, b) ∧
      m.operands = [⟨4⟩, ⟨5⟩] ∧ b.slots = shared.slots ++ [product, one]) := by
  intro product one equals
  obtain ⟨hreplace, -, -, hinPlace, -, hbuilt⟩ :=
    changes_all_or_nothing reachable_shared.wellFormed
  refine ⟨?_, ?_, hinPlace _, ?_⟩
  · intro hacyclic
    obtain ⟨old, b, h⟩ := (hreplace ⟨0⟩ product).mpr ⟨by decide, hacyclic⟩
    exact absurd (replace_eq_ok_iff.mp h).2.1 (by decide)
  · exact ((hreplace ⟨3⟩ _).mp ⟨_, _, rfl⟩).2
  · have hcall : shared.build (.invoke .virtual equals (some product) [one]) =
        .ok (shared.store (.invoke .virtual equals (some product) [one])) := rfl
    exact ⟨_, _, hcall, (hbuilt _ _ _ hcall).2⟩

end Arena

end ClassAtlas
