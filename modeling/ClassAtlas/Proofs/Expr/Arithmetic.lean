import ClassAtlas.Proofs.Expr.Edits
import Mathlib.Data.Finset.Lattice.Fold
import Mathlib.Order.Lattice.Nat

/-!
# Types of arithmetic

Sums, differences, products and the like over any terms, nested in any way,
have the type of the widest term, and that is unknown if a term is no number.
With the types of numbers in the order of their widths and everything else at
the top, arithmetic takes the highest type of its operands, so only the types
of the terms count and not how they are put together.
-/

namespace ClassAtlas

variable {α : Type}

/-! ## Widths -/

namespace Primitive

/-- What a type counts as in arithmetic. -/
def countsAs : Primitive → Primitive
  | byte | char | short => int
  | p => p

/-- The order of the types that numbers count as: int, long, float, double. -/
def width : Primitive → Nat
  | long => 1
  | float => 2
  | double => 3
  | _ => 0

@[simp] theorem width_countsAs (p : Primitive) : p.countsAs.width = p.width := by
  cases p <;> rfl

/-- One of the four types that numbers count as. -/
def IsPromoted (p : Primitive) : Prop :=
  p ≠ .boolean ∧ p.countsAs = p

instance (p : Primitive) : Decidable p.IsPromoted :=
  inferInstanceAs (Decidable (p ≠ .boolean ∧ p.countsAs = p))

theorem IsPromoted.widest {w p : Primitive} (hw : w.IsPromoted) (hp : p ≠ .boolean) :
    (w.widest p).IsPromoted := by
  revert hw hp
  cases w <;> cases p <;> decide

theorem IsPromoted.width_widest {w p : Primitive} (hw : w.IsPromoted) (hp : p ≠ .boolean) :
    (w.widest p).width = max w.width p.width := by
  revert hw hp
  cases w <;> cases p <;> decide

end Primitive

namespace JavaType

/-- A primitive type other than boolean. -/
def isNumber : JavaType → Bool
  | primitive p => p != .boolean
  | _ => false

/-- The width of a number; what is no number stands above all numbers. -/
def rank : JavaType → Nat
  | primitive p => if p = .boolean then 4 else p.width
  | _ => 4

def ofRank : Nat → JavaType
  | 0 => .primitive .int
  | 1 => .primitive .long
  | 2 => .primitive .float
  | 3 => .primitive .double
  | _ => .unknown

theorem exists_primitive_of_isNumber {t : JavaType} (h : t.isNumber = true) :
    ∃ p, p ≠ .boolean ∧ t = .primitive p := by
  cases t with
  | primitive p => exact ⟨p, bne_iff_ne.mp h, rfl⟩
  | named | array | null | void | unknown => cases h

theorem rank_primitive {p : Primitive} (h : p ≠ .boolean) : (primitive p).rank = p.width :=
  if_neg h

theorem rank_of_not_isNumber {t : JavaType} (h : t.isNumber = false) : t.rank = 4 := by
  cases t with
  | primitive p => exact if_pos (by simpa [isNumber] using h)
  | named | array | null | void | unknown => rfl

theorem rank_le_four (t : JavaType) : t.rank ≤ 4 := by
  cases t with
  | primitive p => cases p <;> decide
  | named | array | null | void | unknown => exact Nat.le_refl 4

theorem ofRank_width {p : Primitive} (h : p ≠ .boolean) :
    ofRank p.width = .primitive p.countsAs := by
  cases p with
  | boolean => exact absurd rfl h
  | byte | char | short | int | long | float | double => rfl

theorem rank_ofRank : ∀ r ≤ 4, (ofRank r).rank = r := by
  decide

theorem ofRank_of_four_le {r : Nat} (h : 4 ≤ r) : ofRank r = .unknown := by
  obtain ⟨k, rfl⟩ := Nat.exists_eq_add_of_le' h
  rfl

/-- The highest rank of the types. -/
def topRank (types : List JavaType) : Nat :=
  types.toFinset.sup rank

@[simp] theorem topRank_nil : topRank [] = 0 := by
  simp [topRank]

@[simp] theorem topRank_cons (t : JavaType) (types : List JavaType) :
    topRank (t :: types) = max t.rank (topRank types) := by
  simp [topRank]

@[simp] theorem topRank_append (types others : List JavaType) :
    topRank (types ++ others) = max (topRank types) (topRank others) := by
  simp [topRank, Finset.sup_union]

theorem rank_le_topRank {t : JavaType} {types : List JavaType} (h : t ∈ types) :
    t.rank ≤ topRank types :=
  Finset.le_sup (List.mem_toFinset.mpr h)

theorem topRank_le_four (types : List JavaType) : topRank types ≤ 4 :=
  Finset.sup_le fun t _ => t.rank_le_four

theorem topRank_eq_zero_or_exists (types : List JavaType) :
    topRank types = 0 ∨ ∃ t ∈ types, topRank types = t.rank := by
  cases types with
  | nil => exact .inl topRank_nil
  | cons t types =>
    obtain ⟨highest, hmem, heq⟩ := Finset.exists_mem_eq_sup (t :: types).toFinset (by simp) rank
    exact .inr ⟨highest, List.mem_toFinset.mp hmem, heq⟩

theorem topRank_eq_of_mem_iff {types others : List JavaType} (h : ∀ t, t ∈ types ↔ t ∈ others) :
    topRank types = topRank others := by
  have hset : types.toFinset = others.toFinset := by
    ext t
    simp [h]
  rw [topRank, hset, topRank]

/-- Types that each stand for a list of types. -/
theorem topRank_map_eq_flatMap {β : Type} {f : β → JavaType} {g : β → List JavaType} {xs : List β}
    (h : ∀ x ∈ xs, (f x).rank = topRank (g x)) :
    topRank (xs.map f) = topRank (xs.flatMap g) := by
  induction xs with
  | nil => rfl
  | cons x xs ih =>
    have hx := h x List.mem_cons_self
    have hrest := ih fun y hy => h y (List.mem_cons_of_mem _ hy)
    simp [hx, hrest]

/-! ## Promotion -/

theorem promoteFrom_of_not_isNumber (w : Primitive) {t : JavaType} (h : t.isNumber = false)
    (types : List JavaType) : promoteFrom w (t :: types) = .unknown := by
  cases t with
  | primitive p =>
    obtain rfl : p = .boolean := by simpa [isNumber] using h
    rfl
  | named | array | null | void | unknown => rfl

theorem promoteFrom_primitive (w : Primitive) {p : Primitive} (h : p ≠ .boolean)
    (types : List JavaType) :
    promoteFrom w (.primitive p :: types) = promoteFrom (w.widest p) types := by
  cases p with
  | boolean => exact absurd rfl h
  | byte | char | short | int | long | float | double => rfl

theorem promoteFrom_eq {w : Primitive} (hw : w.IsPromoted)
    (types : List JavaType) : promoteFrom w types = ofRank (max w.width (topRank types)) := by
  induction types generalizing w with
  | nil => rw [promoteFrom, topRank_nil, Nat.max_zero, ofRank_width hw.1, hw.2]
  | cons t types ih =>
    cases ht : t.isNumber with
    | false =>
      have hfour : 4 ≤ max w.width (topRank (t :: types)) := by
        rw [topRank_cons, rank_of_not_isNumber ht]
        omega
      rw [promoteFrom_of_not_isNumber w ht, ofRank_of_four_le hfour]
    | true =>
      obtain ⟨p, hp, rfl⟩ := exists_primitive_of_isNumber ht
      rw [promoteFrom_primitive w hp, ih (hw.widest hp), hw.width_widest hp, topRank_cons,
        rank_primitive hp, Nat.max_assoc]

theorem promote_eq (types : List JavaType) : promote types = ofRank (topRank types) := by
  rw [promote, promoteFrom_eq (by decide)]
  exact congrArg ofRank (Nat.zero_max _)

theorem rank_promote (types : List JavaType) : (promote types).rank = topRank types := by
  rw [promote_eq, rank_ofRank _ (topRank_le_four types)]

theorem promote_of_not_isNumber {t : JavaType} {types : List JavaType} (ht : t ∈ types)
    (h : t.isNumber = false) : promote types = .unknown := by
  rw [promote_eq, ofRank_of_four_le]
  rw [← rank_of_not_isNumber h]
  exact rank_le_topRank ht

/-- Numbers are promoted to the widest of them. -/
theorem exists_promote_eq {types : List JavaType} (h : ∀ t ∈ types, t.isNumber = true) :
    ∃ p, promote types = .primitive p ∧
      (p = .int ∨ ∃ q, .primitive q ∈ types ∧ p = q.countsAs) ∧
      ∀ q, .primitive q ∈ types → q.width ≤ p.width := by
  have hbound : ∀ q, .primitive q ∈ types → q.width ≤ topRank types := by
    intro q hq
    have hnumber : q ≠ .boolean := bne_iff_ne.mp (h _ hq)
    rw [← rank_primitive hnumber]
    exact rank_le_topRank hq
  rcases topRank_eq_zero_or_exists types with hzero | ⟨t, ht, htop⟩
  · exact ⟨.int, by rw [promote_eq, hzero]; rfl, .inl rfl, fun q hq => (hbound q hq).trans hzero.le⟩
  · obtain ⟨p, hp, rfl⟩ := exists_primitive_of_isNumber (h t ht)
    rw [rank_primitive hp] at htop
    refine ⟨p.countsAs, by rw [promote_eq, htop, ofRank_width hp], .inr ⟨p, ht, rfl⟩, ?_⟩
    intro q hq
    rw [Primitive.width_countsAs, ← htop]
    exact hbound q hq

end JavaType

/-! ## Terms -/

def BinaryOp.isArithmetic : BinaryOp → Bool
  | add | sub | mul | div | rem => true
  | _ => false

def Node.isArithmetic : Node α → Bool
  | binary op _ _ => op.isArithmetic
  | unary .neg _ => true
  | _ => false

@[simp] theorem Node.isArithmetic_map {β : Type} (f : α → β) (n : Node α) :
    (n.map f).isArithmetic = n.isArithmetic := by
  cases n with
  | unary op operand => cases op <;> rfl
  | _ => rfl

theorem Node.resultType_of_isArithmetic {n : Node JavaType} (h : n.isArithmetic = true) :
    n.resultType = .promote n.operands := by
  cases n with
  | binary op left right =>
    cases op with
    | add | sub | mul | div | rem => rfl
    | _ => cases h
  | unary op operand =>
    cases op with
    | neg => rfl
    | length => cases h
  | cast | instanceOf | new | newArray | newMultiArray | invoke => cases h

namespace Tree

/-- What the arithmetic at the root of a tree is done on, from left to right. -/
def terms : Tree → List Tree
  | node (.binary op (i, left) (j, right)) =>
    if op.isArithmetic then left.terms ++ right.terms
    else [node (.binary op (i, left) (j, right))]
  | node (.unary .neg (_, operand)) => operand.terms
  | t => [t]

theorem terms_of_isArithmetic {n : Node (Slot × Tree)} (h : n.isArithmetic = true) :
    (node n).terms = n.operands.flatMap (·.2.terms) := by
  cases n with
  | binary op left right =>
    have hop : op.isArithmetic = true := h
    simp [terms, hop, Node.operands]
  | unary op operand =>
    cases op with
    | neg => simp [terms, Node.operands]
    | length => cases h
  | cast | instanceOf | new | newArray | newMultiArray | invoke => cases h

theorem terms_of_not_isArithmetic {n : Node (Slot × Tree)} (h : n.isArithmetic = false) :
    (node n).terms = [node n] := by
  cases n with
  | binary op left right =>
    have hop : op.isArithmetic = false := h
    simp [terms, hop]
  | unary op operand =>
    cases op with
    | neg => cases h
    | length => simp [terms]
  | cast | instanceOf | new | newArray | newMultiArray | invoke => simp [terms]

theorem type_node (n : Node (Slot × Tree)) :
    (node n).type = (n.map (·.2.type)).resultType := by
  rw [type, fold_node, Node.map_map]
  rfl

/-- The operands of arithmetic are promoted together. -/
theorem type_of_isArithmetic {n : Node (Slot × Tree)} (h : n.isArithmetic = true) :
    (node n).type = .promote (n.operands.map (·.2.type)) := by
  have hmap : (n.map (·.2.type)).isArithmetic = true := by rw [Node.isArithmetic_map, h]
  rw [type_node, Node.resultType_of_isArithmetic hmap, Node.operands_map]

theorem rank_type (t : Tree) : t.type.rank = JavaType.topRank (t.terms.map type) := by
  induction t using Tree.induction with
  | leaf l => simp [terms]
  | node n ih =>
    cases h : n.isArithmetic with
    | false => simp [terms_of_not_isArithmetic h]
    | true =>
      rw [type_of_isArithmetic h, JavaType.rank_promote, terms_of_isArithmetic h, List.map_flatMap]
      exact JavaType.topRank_map_eq_flatMap ih

/-- However the terms are put together, they are promoted as if they were operands of one node. -/
theorem type_eq_promote_terms {n : Node (Slot × Tree)} (h : n.isArithmetic = true) :
    (node n).type = .promote ((node n).terms.map type) := by
  rw [type_of_isArithmetic h, JavaType.promote_eq, JavaType.promote_eq, ← rank_type,
    type_of_isArithmetic h, JavaType.rank_promote]

end Tree

namespace Arena

variable {a : Arena}

theorem Acyclic.type_eq_promote_terms (ha : a.Acyclic) {n : Node Slot}
    (h : n.isArithmetic = true) :
    a.type (.expr n) = .promote ((a.tree (.expr n)).terms.map Tree.type) := by
  rw [type, ha.tree_expr, Tree.type_eq_promote_terms (by simpa using h)]

/-- Arithmetic, nested in any way, over terms of any types. It is of unknown type if one of them is
no number, else of the widest type among int and theirs. Arithmetic on terms of the same types, in
whatever arena, order and number, is of the same type. -/
theorem arithmetic_has_widest_type (ha : a.WellFormed) {n : Node Slot}
    (hn : n.isArithmetic = true) (hover : (Value.expr n).Over a) :
    let types := (a.tree (.expr n)).terms.map Tree.type
    a.Unfolds (.expr n) (a.tree (.expr n)) ∧
    ((∃ t ∈ types, t.isNumber = false) → a.type (.expr n) = .unknown) ∧
    ((∀ t ∈ types, t.isNumber = true) → ∃ p, a.type (.expr n) = .primitive p ∧
      (p = .int ∨ ∃ q, .primitive q ∈ types ∧ p = q.countsAs) ∧
      ∀ q, .primitive q ∈ types → q.width ≤ p.width) ∧
    ∀ (b : Arena) (m : Node Slot), b.WellFormed → m.isArithmetic = true →
      (∀ t, t ∈ types ↔ t ∈ (b.tree (.expr m)).terms.map Tree.type) →
      b.type (.expr m) = a.type (.expr n) := by
  intro types
  have htype : a.type (.expr n) = .promote types := ha.acyclic.type_eq_promote_terms hn
  rw [htype]
  refine ⟨ha.unfolds_tree hover, ?_, JavaType.exists_promote_eq, ?_⟩
  · rintro ⟨t, ht, hnumber⟩
    exact JavaType.promote_of_not_isNumber ht hnumber
  · intro b m hb hm hsame
    rw [hb.acyclic.type_eq_promote_terms hm, JavaType.promote_eq, JavaType.promote_eq,
      JavaType.topRank_eq_of_mem_iff hsame]

def byteVar : Value := .leaf (.var ⟨"b", .primitive .byte, []⟩)

def floatVar : Value := .leaf (.var ⟨"f", .primitive .float, []⟩)

/-- A product of a sum and a negated variable, a remainder of a difference over the same three
types, and the product plus a type test. -/
def computing : Arena :=
  [Edit.build (.binary .add byteVar (.leaf (.const (.long 1)))),
    .build (.unary .neg floatVar),
    .build (.binary .mul (.expr (.binary .add ⟨0⟩ ⟨1⟩)) (.expr (.unary .neg ⟨2⟩))),
    .build (.binary .sub floatVar (.leaf (.const (.long 2)))),
    .build (.binary .rem (.expr (.binary .sub ⟨5⟩ ⟨6⟩)) byteVar),
    .build (.instanceOf (.leaf (.const .null)) (.named .object)),
    .build (.binary .add (.expr (.binary .mul ⟨3⟩ ⟨4⟩)) (.expr (.instanceOf ⟨9⟩ (.named .object))))
  ].foldl (fun a e => (a.edit e).2) empty

theorem reachable_computing : computing.Reachable := by
  refine .edit (.edit (.edit (.edit (.edit (.edit (.edit .empty _ ?_) _ ?_) _ ?_) _ ?_) _ ?_) _ ?_)
    _ ?_ <;> decide

/-- The product is a float, like the remainder, and the sum with a type test has no type. -/
theorem arithmetic_has_widest_type_computing :
    let product := Value.expr (.binary .mul ⟨3⟩ ⟨4⟩)
    let remainder := Value.expr (.binary .rem ⟨7⟩ ⟨8⟩)
    let sum := Value.expr (.binary .add ⟨10⟩ ⟨11⟩)
    computing.type product = .primitive .float ∧
    computing.type remainder = .primitive .float ∧
    computing.type sum = .unknown := by
  intro product remainder sum
  have hwf : computing.WellFormed := reachable_computing.wellFormed
  have hproduct : (computing.tree product).terms.map Tree.type =
      [.primitive .byte, .primitive .long, .primitive .float] := by decide
  have hremainder : (computing.tree remainder).terms.map Tree.type =
      [.primitive .float, .primitive .long, .primitive .byte] := by decide
  obtain ⟨-, -, hnumbers, hsame⟩ :=
    arithmetic_has_widest_type hwf (n := .binary .mul ⟨3⟩ ⟨4⟩) rfl (by decide)
  obtain ⟨-, hunknown, -⟩ :=
    arithmetic_has_widest_type hwf (n := .binary .add ⟨10⟩ ⟨11⟩) rfl (by decide)
  have hfloat : computing.type product = .primitive .float := by
    obtain ⟨p, htype, hp, hwidest⟩ := hnumbers (by decide)
    have hwidth : 2 ≤ p.width := hwidest .float (by decide)
    rw [hproduct] at hp
    rw [htype]
    rcases hp with rfl | ⟨q, hq, rfl⟩
    · exact absurd hwidth (by decide)
    · have hcases : q = .byte ∨ q = .long ∨ q = .float := by simpa using hq
      rcases hcases with rfl | rfl | rfl
      · exact absurd hwidth (by decide)
      · exact absurd hwidth (by decide)
      · rfl
  refine ⟨hfloat, ?_, hunknown (by decide)⟩
  rw [← hfloat]
  refine hsame computing (.binary .rem ⟨7⟩ ⟨8⟩) hwf rfl ?_
  intro t
  rw [hproduct, hremainder]
  exact List.mem_reverse.symm

end Arena

end ClassAtlas
