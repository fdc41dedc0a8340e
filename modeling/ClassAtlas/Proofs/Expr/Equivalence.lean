import ClassAtlas.Proofs.Expr.Edits
import Mathlib.Data.List.Forall2

/-!
# Equivalent values

When two values are equivalent, rule by rule: down from slot to slot, without
a shape in between. To have one shape is exactly that. Equivalent values have
the same type, and they are printed alike unless a new array with sizes is in
them, of whose sizes only the number is compared.
-/

namespace ClassAtlas

/-! ## The rules -/

/-- Two expressions of one kind that say the same and whose operands are related, in order. Of the
sizes of a new array only the number counts. -/
inductive Node.Matches {α : Type} (R : α → α → Prop) : Node α → Node α → Prop where
  | binary (op : BinaryOp) {left right left' right' : α} (hleft : R left left')
      (hright : R right right') : Matches R (.binary op left right) (.binary op left' right')
  | unary (op : UnaryOp) {operand operand' : α} (h : R operand operand') :
      Matches R (.unary op operand) (.unary op operand')
  | cast (type : JavaType) {operand operand' : α} (h : R operand operand') :
      Matches R (.cast operand type) (.cast operand' type)
  | instanceOf (type : JavaType) {operand operand' : α} (h : R operand operand') :
      Matches R (.instanceOf operand type) (.instanceOf operand' type)
  | new (name : ClassName) : Matches R (.new name) (.new name)
  | newArray (element : JavaType) {size size' : α} (h : R size size') :
      Matches R (.newArray element size) (.newArray element size')
  | newMultiArray (type : ArrayType) {sizes sizes' : List α} (h : sizes.length = sizes'.length) :
      Matches R (.newMultiArray type sizes) (.newMultiArray type sizes')
  | invoke (kind : InvokeKind) (method : MethodRef) {base base' : Option α} {args args' : List α}
      (hbase : Option.Rel R base base') (hargs : List.Forall₂ R args args') :
      Matches R (.invoke kind method base args) (.invoke kind method base' args')

/-- The values are the same leaf, or expressions that match down to their leaves. -/
inductive Arena.Matches (a : Arena) : Value → Value → Prop where
  | leaf (l : Leaf) : a.Matches (.leaf l) (.leaf l)
  | expr {n m : Node Slot} (h : n.Matches (fun s t => a.Matches (a.get s) (a.get t)) m) :
      a.Matches (.expr n) (.expr m)

/-- An array that is created with at least one size. -/
def Node.isSized {α : Type} : Node α → Bool
  | .newMultiArray _ sizes => !sizes.isEmpty
  | _ => false

def Value.isSized : Value → Bool
  | .leaf _ => false
  | .expr n => n.isSized

/-- Neither the value nor anything that it reaches is an array created with sizes. -/
def Arena.Unsized (a : Arena) (v : Value) : Prop :=
  v.isSized = false ∧ ∀ s, a.Reaches v s → (a.get s).isSized = false

/-! ## Heads and operands -/

namespace Node

variable {α β : Type} {n m : Node α}

theorem mem_operands_of_mem_shapeOperands {x : α} (h : x ∈ n.shapeOperands) :
    x ∈ n.operands := by
  cases n with
  | newMultiArray => cases h
  | _ => exact h

/-- The rules compare the heads and the operands that a shape keeps. -/
theorem matches_iff {R : α → α → Prop} :
    n.Matches R m ↔ n.head = m.head ∧ List.Forall₂ R n.shapeOperands m.shapeOperands := by
  constructor
  · intro h
    cases h with
    | binary op hleft hright => exact ⟨rfl, .cons hleft (.cons hright .nil)⟩
    | unary _ h | cast _ h | instanceOf _ h | newArray _ h => exact ⟨rfl, .cons h .nil⟩
    | new name => exact ⟨rfl, .nil⟩
    | newMultiArray type h => exact ⟨congrArg (Head.newMultiArray type) h, .nil⟩
    | invoke kind method hbase hargs =>
      cases hbase with
      | none => exact ⟨rfl, hargs⟩
      | some hbase => exact ⟨rfl, .cons hbase hargs⟩
  · rintro ⟨hhead, hoperands⟩
    cases n with
    | binary op left right =>
      cases m <;> cases hhead
      obtain _ | ⟨hleft, _ | ⟨hright, _⟩⟩ := hoperands
      exact .binary op hleft hright
    | unary op operand =>
      cases m <;> cases hhead
      obtain _ | ⟨h, _⟩ := hoperands
      exact .unary op h
    | cast operand type =>
      cases m <;> cases hhead
      obtain _ | ⟨h, _⟩ := hoperands
      exact .cast type h
    | instanceOf operand type =>
      cases m <;> cases hhead
      obtain _ | ⟨h, _⟩ := hoperands
      exact .instanceOf type h
    | new name =>
      cases m <;> cases hhead
      exact .new name
    | newArray element size =>
      cases m <;> cases hhead
      obtain _ | ⟨h, _⟩ := hoperands
      exact .newArray element h
    | newMultiArray type sizes =>
      cases m <;> simp only [head, reduceCtorEq, Head.newMultiArray.injEq] at hhead
      obtain ⟨rfl, hlength⟩ := hhead
      exact .newMultiArray type hlength
    | invoke kind method base args =>
      cases m <;> simp only [head, reduceCtorEq, Head.invoke.injEq] at hhead
      obtain ⟨rfl, rfl, hbase⟩ := hhead
      next base' args' =>
      cases base <;> cases base' <;> cases hbase
      · exact .invoke kind method .none hoperands
      · obtain _ | ⟨h, hargs⟩ := hoperands
        exact .invoke kind method (.some h) hargs

theorem Matches.imp_of_mem {R S : α → α → Prop} (h : n.Matches R m)
    (himp : ∀ x ∈ n.operands, ∀ y, R x y → S x y) : n.Matches S m := by
  rw [matches_iff] at h ⊢
  have hmem : List.Forall₂ (fun x y => x ∈ n.operands ∧ R x y) n.shapeOperands m.shapeOperands :=
    (List.forall₂_and_left _ _).mpr ⟨fun x hx => mem_operands_of_mem_shapeOperands hx, h.2⟩
  exact ⟨h.1, hmem.imp fun x y hxy => himp x hxy.1 y hxy.2⟩

theorem map_eq_of_forall₂ {f : α → β} {xs ys : List α}
    (h : List.Forall₂ (fun x y => f x = f y) xs ys) : xs.map f = ys.map f := by
  rwa [← List.forall₂_eq_eq_eq, List.forall₂_map_left_iff, List.forall₂_map_right_iff]

/-- The sizes of an array are not asked for its type. -/
theorem Matches.resultType_eq {type : α → JavaType}
    (h : n.Matches (fun x y => type x = type y) m) :
    (n.map type).resultType = (m.map type).resultType := by
  cases h with
  | binary op hleft hright => simp only [map, resultType, hleft, hright]
  | unary op h => simp only [map, resultType, h]
  | cast | instanceOf | new | newArray | newMultiArray | invoke => rfl

/-- Without sizes nothing is left out of the comparison. -/
theorem Matches.map_eq {f : α → β} (h : n.Matches (fun x y => f x = f y) m)
    (hsized : n.isSized = false) : n.map f = m.map f := by
  cases h with
  | binary op hleft hright => simp only [map, hleft, hright]
  | unary _ h | cast _ h | instanceOf _ h | newArray _ h => simp only [map, h]
  | new name => rfl
  | @newMultiArray type sizes sizes' hlength =>
    have hsizes : sizes = [] := by simpa [isSized] using hsized
    subst hsizes
    have hsizes' : sizes' = [] := List.eq_nil_of_length_eq_zero hlength.symm
    subst hsizes'
    rfl
  | invoke kind method hbase hargs =>
    cases hbase with
    | none => simp only [map, map_eq_of_forall₂ hargs]
    | some hbase => simp only [map, map_eq_of_forall₂ hargs, Option.map_some, hbase]

end Node

/-! ## Equal shapes -/

namespace Arena

variable {a : Arena}

theorem matches_expr_iff {n m : Node Slot} :
    a.Matches (.expr n) (.expr m) ↔
      n.Matches (fun s t => a.Matches (a.get s) (a.get t)) m := by
  constructor
  · intro h
    cases h with
    | expr h => exact h
  · exact .expr

theorem Acyclic.shape_expr_eq_iff (ha : a.Acyclic) {n m : Node Slot} :
    a.shape (.expr n) = a.shape (.expr m) ↔
      n.Matches (fun s t => a.shape (a.get s) = a.shape (a.get t)) m := by
  rw [ha.shape_expr, ha.shape_expr, Shape.node.injEq, Node.matches_iff, ← List.forall₂_eq_eq_eq,
    List.forall₂_map_left_iff, List.forall₂_map_right_iff]

/-- To have one shape is to match. -/
theorem Acyclic.shape_eq_iff (ha : a.Acyclic) {v w : Value} :
    a.shape v = a.shape w ↔ a.Matches v w := by
  -- Down in the first value only. Whatever is on the other side is there by the rule at hand.
  induction v using ha.induction generalizing w with
  | leaf l =>
    constructor
    · intro h
      cases w with
      | leaf l' =>
        cases h
        exact .leaf l
      | expr m => cases h
    · rintro ⟨⟩
      rfl
  | expr n ih =>
    cases w with
    | leaf l => exact iff_of_false (by rintro ⟨⟩) (by rintro ⟨⟩)
    | expr m =>
      rw [ha.shape_expr_eq_iff, matches_expr_iff]
      constructor
      · intro h
        exact h.imp_of_mem fun s hs t => (ih s hs).mp
      · intro h
        exact h.imp_of_mem fun s hs t => (ih s hs).mpr

theorem equivalent_iff (a : Arena) (v w : Value) :
    a.equivalent v w = true ↔ a.shape v = a.shape w :=
  beq_iff_eq

/-! ## What equivalent values share -/

theorem Acyclic.type_eq_of_matches (ha : a.Acyclic) {v w : Value} (h : a.Matches v w) :
    a.type v = a.type w := by
  induction v using ha.induction generalizing w with
  | leaf l =>
    cases h
    rfl
  | expr n ih =>
    obtain _ | h := h
    rw [ha.type_expr, ha.type_expr]
    exact (h.imp_of_mem fun s hs t => ih s hs).resultType_eq

theorem Unsized.get {n : Node Slot} (h : a.Unsized (.expr n)) {s : Slot} (hs : s ∈ n.operands) :
    a.Unsized (a.get s) :=
  ⟨h.2 s (reaches_iff.mpr (.inl hs)), fun t ht => h.2 t (reaches_iff.mpr (.inr ⟨s, hs, ht⟩))⟩

theorem Acyclic.unsized_iff (ha : a.Acyclic) {v : Value} :
    a.Unsized v ↔ v.isSized = false ∧ ∀ s ∈ a.uses v, (a.get s).isSized = false := by
  simp only [Unsized, ha.mem_uses_iff]

/-- Values that match are printed alike, if none of them has sizes to be printed. -/
theorem Acyclic.print_eq_of_matches {σ : Type} (ha : a.Acyclic) (sink : Sink σ) {v w : Value}
    (h : a.Matches v w) (hv : a.Unsized v) : (a.tree v).print sink = (a.tree w).print sink := by
  induction v using ha.induction generalizing w with
  | leaf l =>
    cases h
    rfl
  | expr n ih =>
    obtain _ | h := h
    rw [ha.print_expr, ha.print_expr]
    have hoperands := h.imp_of_mem fun s hs t hst => ih s hs hst (hv.get hs)
    exact congrArg sink.node (hoperands.map_eq hv.1)

/-- Values are told to be equivalent exactly if they match by the rules. Equal values are, and
equivalent ones have the same type. They are printed in the same pieces, unless an array with sizes
is in one of them. -/
theorem equivalent_iff_matches (ha : a.WellFormed) (v w : Value) :
    (a.equivalent v w = true ↔ a.Matches v w) ∧
    (v = w → a.equivalent v w = true) ∧
    (a.equivalent v w = true → a.type v = a.type w) ∧
    (a.equivalent v w = true → a.Unsized v ∨ a.Unsized w → a.events v = a.events w) := by
  have hmatches : a.equivalent v w = true ↔ a.Matches v w :=
    (a.equivalent_iff v w).trans ha.acyclic.shape_eq_iff
  refine ⟨hmatches, ?_, ?_, ?_⟩
  · rintro rfl
    exact (a.equivalent_iff v v).mpr rfl
  · intro h
    exact ha.acyclic.type_eq_of_matches (hmatches.mp h)
  · intro h hunsized
    have hback : a.Matches w v :=
      ha.acyclic.shape_eq_iff.mp ((a.equivalent_iff v w).mp h).symm
    rcases hunsized with hv | hw
    · exact congrFun (ha.acyclic.print_eq_of_matches .recorder (hmatches.mp h) hv) []
    · exact (congrFun (ha.acyclic.print_eq_of_matches .recorder hback hw) []).symm

/-- Two arrays with the same sizes in either order. -/
def reordered : Arena :=
  let count := Value.leaf (.var ⟨"a", .primitive .int, []⟩)
  let two := Value.leaf (.const (.int 2))
  let type : ArrayType := ⟨.primitive .int, 3⟩
  let a := (empty.edit (.build (.newMultiArray type [count, two]))).2
  let a := (a.edit (.push (.expr (.newMultiArray type [⟨0⟩, ⟨1⟩])))).2
  (a.edit (.push (.expr (.newMultiArray type [⟨1⟩, ⟨0⟩])))).2

theorem reachable_reordered : reordered.Reachable := by
  refine .edit (.edit (.edit .empty _ ?_) _ ?_) _ ?_ <;> decide

/-- The lengths of the two arrays match and are printed differently. The opposites of a sum that is
in two slots are printed alike. -/
theorem equivalent_iff_matches_lengths :
    let v := Value.expr (.unary .length ⟨2⟩)
    let w := Value.expr (.unary .length ⟨3⟩)
    let x := Value.expr (.unary .neg ⟨2⟩)
    let y := Value.expr (.unary .neg ⟨3⟩)
    reordered.Matches v w ∧ v ≠ w ∧ reordered.type v = reordered.type w ∧
    reordered.events v ≠ reordered.events w ∧
    x ≠ y ∧ shared.Unsized x ∧ shared.events x = shared.events y := by
  intro v w x y
  have hlengths : reordered.equivalent v w = true := by decide
  have hopposites : shared.equivalent x y = true := by decide
  have hunsized : shared.Unsized x :=
    reachable_shared.wellFormed.acyclic.unsized_iff.mpr (by decide)
  obtain ⟨hmatches, -, htype, -⟩ := equivalent_iff_matches reachable_reordered.wellFormed v w
  obtain ⟨-, -, -, hevents⟩ := equivalent_iff_matches reachable_shared.wellFormed x y
  exact ⟨hmatches.mp hlengths, by decide, htype hlengths, by decide, by decide, hunsized,
    hevents hopposites (.inl hunsized)⟩

end Arena

end ClassAtlas
