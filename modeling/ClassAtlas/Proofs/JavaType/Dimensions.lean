import ClassAtlas.JavaType.Array
import Mathlib.Algebra.Group.Nat.Defs

/-!
# Dimensions of arrays

To build an array adds to the number of dimensions, and to take dimensions off
subtracts from it. It makes no difference whether they go one by one or many at
a time. The number has 32 bits: a sum of exactly one more than fits leaves an
array without dimensions, and such an array is not told from its elements.
-/

namespace ClassAtlas

/-! ## Bases under dimensions -/

theorem BaseType.type_ne_array (base : BaseType) (a : ArrayType) : base.type ≠ .array a := by
  cases base <;> simp [type]

namespace JavaType

/-- What stands under all dimensions. -/
def base? : JavaType → Option BaseType
  | primitive p => some (.primitive p)
  | named c => some (.named c)
  | array a => some a.base
  | null | void | unknown => none

/-- How many dimensions a type has; none if it is no array. -/
def dimensions : JavaType → UInt32
  | array a => a.dimensions
  | _ => 0

/-- If the type is an array, it has a dimension. -/
def Sized (t : JavaType) : Prop :=
  ∀ a, t = .array a → 0 < a.dimensions

/-- So many dimensions over a base. -/
def stacked (base : BaseType) (n : UInt32) : JavaType :=
  if n = 0 then base.type else .array ⟨base, n⟩

variable {base : BaseType} {t u : JavaType} {n : UInt32}

theorem exists_base?_iff :
    (∃ base, t.base? = some base) ↔ t ∉ [JavaType.void, .null, .unknown] := by
  cases t <;> simp [base?]

@[simp] theorem base?_stacked (base : BaseType) (n : UInt32) :
    (stacked base n).base? = some base := by
  unfold stacked
  split
  · cases base <;> rfl
  · rfl

@[simp] theorem dimensions_stacked (base : BaseType) (n : UInt32) :
    (stacked base n).dimensions = n := by
  unfold stacked
  split
  · next hn => cases base <;> exact hn.symm
  · rfl

theorem sized_stacked (base : BaseType) (n : UInt32) : (stacked base n).Sized := by
  intro a ha
  unfold stacked at ha
  split at ha
  · exact absurd ha (base.type_ne_array a)
  · next hn =>
    cases ha
    exact UInt32.pos_iff_ne_zero.mpr hn

/-- A type with dimensions is no other than that of its base and their number. -/
theorem eq_stacked_dimensions_iff (hbase : t.base? = some base) :
    t = stacked base t.dimensions ↔ t.Sized := by
  constructor
  · intro h
    rw [h]
    exact sized_stacked _ _
  · intro h
    cases t with
    | primitive | named =>
      cases hbase
      rfl
    | array a =>
      cases hbase
      exact (if_neg (UInt32.pos_iff_ne_zero.mp (h a rfl))).symm
    | null | void | unknown => cases hbase

end JavaType

open JavaType (stacked)

variable {base : BaseType} {t u : JavaType} {a b : ArrayType} {i j k m n : UInt32}

/-! ## Building -/

namespace ArrayType

theorem of_eq_ok_iff : ArrayType.of t n = .ok a ↔
    n ≠ 0 ∧ t.base? = some a.base ∧ a.dimensions = t.dimensions + n := by
  obtain ⟨base, dimensions⟩ := a
  unfold of
  split
  · next hn => simp [hn]
  · next hn => cases t <;> simp [hn, JavaType.base?, JavaType.dimensions, eq_comm]

theorem exists_of_iff :
    (∃ a, ArrayType.of t n = .ok a) ↔ n ≠ 0 ∧ t ∉ [JavaType.void, .null, .unknown] := by
  simp only [of_eq_ok_iff, ← JavaType.exists_base?_iff]
  constructor
  · rintro ⟨a, hn, hbase, -⟩
    exact ⟨hn, a.base, hbase⟩
  · rintro ⟨hn, base, hbase⟩
    exact ⟨⟨base, t.dimensions + n⟩, hn, hbase, rfl⟩

theorem toNat_dimensions_of (h : ArrayType.of t n = .ok a) :
    a.dimensions.toNat = (t.dimensions.toNat + n.toNat) % 2 ^ 32 := by
  rw [(of_eq_ok_iff.mp h).2.2, UInt32.toNat_add]

/-- Only one sum leaves no dimension. -/
theorem dimensions_of_pos_iff (h : ArrayType.of t n = .ok a) :
    0 < a.dimensions ↔ t.dimensions.toNat + n.toNat ≠ 2 ^ 32 := by
  have hn : 0 < n.toNat :=
    UInt32.lt_iff_toNat_lt.mp (UInt32.pos_iff_ne_zero.mpr (of_eq_ok_iff.mp h).1)
  have hsum := toNat_dimensions_of h
  have ht := t.dimensions.toNat_lt
  have hlt := n.toNat_lt
  rw [UInt32.lt_iff_toNat_lt, hsum, UInt32.toNat_zero]
  omega

theorem of_array (hn : n ≠ 0) (h : ArrayType.of t m = .ok a) (hsum : m + n ≠ 0) :
    ArrayType.of (.array a) n = ArrayType.of t (m + n) := by
  obtain ⟨-, hbase, hdimensions⟩ := of_eq_ok_iff.mp h
  have hleft : ArrayType.of (.array a) n = .ok ⟨a.base, a.dimensions + n⟩ :=
    of_eq_ok_iff.mpr ⟨hn, rfl, rfl⟩
  have hright : ArrayType.of t (m + n) = .ok ⟨a.base, t.dimensions + (m + n)⟩ :=
    of_eq_ok_iff.mpr ⟨hsum, hbase, rfl⟩
  rw [hleft, hright, hdimensions, UInt32.add_assoc]

/-! ## Taking dimensions off -/

theorem element_eq (a : ArrayType) : a.element = stacked a.base (a.dimensions - 1) := by
  unfold element stacked
  by_cases h : a.dimensions = 1
  · simp [h]
  · have hleft : a.dimensions - 1 ≠ 0 := by grind
    rw [if_neg h, if_neg hleft]

theorem under_eq_ok_iff :
    a.under k = .ok t ↔ k ≤ a.dimensions ∧ t = stacked a.base (a.dimensions - k) := by
  unfold under stacked
  by_cases hmore : a.dimensions < k
  · have hnot : ¬ k ≤ a.dimensions := UInt32.not_le.mpr hmore
    simp [hmore, hnot]
  · have hle : k ≤ a.dimensions := UInt32.not_lt.mp hmore
    by_cases hk : k = a.dimensions
    · simp [hk, eq_comm]
    · have hleft : a.dimensions - k ≠ 0 := by grind
      simp [hmore, hle, hk, hleft, eq_comm]

theorem exists_under_iff : (∃ t, a.under k = .ok t) ↔ k ≤ a.dimensions := by
  simp [under_eq_ok_iff]

/-- What was taken off can be put on again. -/
theorem of_of_under (hk : k ≠ 0) (h : a.under k = .ok t) : ArrayType.of t k = .ok a := by
  obtain ⟨-, rfl⟩ := under_eq_ok_iff.mp h
  exact of_eq_ok_iff.mpr ⟨hk, JavaType.base?_stacked _ _, by simp⟩

/-- What was put on can be taken off again, if the sum fits. -/
theorem under_of_of_iff (h : ArrayType.of t n = .ok a) :
    a.under n = .ok t ↔ t.Sized ∧ t.dimensions.toNat + n.toNat < 2 ^ 32 := by
  obtain ⟨-, hbase, hdimensions⟩ := of_eq_ok_iff.mp h
  have hfits : n ≤ t.dimensions + n ↔ t.dimensions.toNat + n.toNat < 2 ^ 32 := by
    have ht := t.dimensions.toNat_lt
    have hn := n.toNat_lt
    rw [UInt32.le_iff_toNat_le, UInt32.toNat_add]
    omega
  rw [under_eq_ok_iff, hdimensions, UInt32.add_sub_cancel, JavaType.eq_stacked_dimensions_iff hbase,
    hfits, and_comm]

theorem under_under (h : a.under i = .ok (.array b)) :
    b.under j = .ok t ↔ ∃ k, k.toNat = i.toNat + j.toNat ∧ a.under k = .ok t := by
  obtain ⟨hi, hb⟩ := under_eq_ok_iff.mp h
  have hbase : b.base = a.base :=
    Option.some.inj ((congrArg JavaType.base? hb).trans (JavaType.base?_stacked _ _))
  have hdimensions : b.dimensions = a.dimensions - i :=
    (congrArg JavaType.dimensions hb).trans (JavaType.dimensions_stacked _ _)
  simp only [under_eq_ok_iff, hbase, hdimensions, UInt32.le_iff_toNat_le,
    UInt32.toNat_sub_of_le _ _ hi]
  have hle := UInt32.le_iff_toNat_le.mp hi
  have hlt := a.dimensions.toNat_lt
  constructor
  · rintro ⟨hj, rfl⟩
    have hsum : (i + j).toNat = i.toNat + j.toNat := by
      rw [UInt32.toNat_add]
      exact Nat.mod_eq_of_lt (by omega)
    exact ⟨i + j, hsum, by omega, by grind⟩
  · rintro ⟨k, hk, hsum, rfl⟩
    obtain rfl : k = i + j := by
      apply UInt32.toNat_inj.mp
      rw [hk, UInt32.toNat_add, Nat.mod_eq_of_lt (by omega)]
    exact ⟨by omega, by grind⟩

end ArrayType

namespace JavaType

/-- What `k` steps from an array to its elements lead to. -/
def elements : Nat → JavaType → Except TypeError JavaType
  | 0, t => .ok t
  | k + 1, t => t.element >>= elements k

theorem elements_stacked_eq_ok_iff {k : Nat} :
    elements k (stacked base n) = .ok t ↔ k ≤ n.toNat ∧ t = stacked base (n - .ofNat k) := by
  induction k generalizing n with
  | zero => simp [elements, eq_comm]
  | succ k ih =>
    by_cases hn : n = 0
    · have hnone : base.type.element = .error (.notAnArray base.type) := by cases base <;> rfl
      simp [elements, stacked, hn, hnone, bind, Except.bind]
    · have hstep : elements (k + 1) (stacked base n) = elements k (stacked base (n - 1)) := by
        have helement : (JavaType.array ⟨base, n⟩).element = .ok (stacked base (n - 1)) :=
          congrArg Except.ok (ArrayType.element_eq ⟨base, n⟩)
        rw [elements, stacked, if_neg hn, helement]
        rfl
      have hone : 1 ≤ n := by grind
      have hless := UInt32.toNat_sub_of_le n 1 hone
      have hleft : n - 1 - .ofNat k = n - .ofNat (k + 1) := by
        rw [UInt32.ofNat_add]
        grind
      have hnat := UInt32.le_iff_toNat_le.mp hone
      rw [UInt32.toNat_one] at hless hnat
      rw [hstep, ih, hless, hleft]
      exact and_congr_left' (by omega)

/-- With a dimension to take off, all at once is the same as one by one. -/
theorem under_iff_elements_iff :
    (∀ k t, a.under k = .ok t ↔ elements k.toNat (.array a) = .ok t) ↔ 0 < a.dimensions := by
  constructor
  · intro h
    refine UInt32.pos_iff_ne_zero.mpr fun hnone => ?_
    -- None of no dimensions is the base, and no step is the array.
    have hbase : a.under 0 = .ok a.base.type :=
      ArrayType.under_eq_ok_iff.mpr ⟨by grind, by rw [hnone]; rfl⟩
    have harray : (.ok (.array a) : Except TypeError JavaType) = .ok a.base.type :=
      (h 0 a.base.type).mp hbase
    exact a.base.type_ne_array a (Except.ok.inj harray).symm
  · intro hpositive k t
    have harray : JavaType.array a = stacked a.base a.dimensions :=
      (if_neg (UInt32.pos_iff_ne_zero.mp hpositive)).symm
    rw [harray, elements_stacked_eq_ok_iff, ArrayType.under_eq_ok_iff, UInt32.le_iff_toNat_le,
      UInt32.ofNat_toNat]

theorem arrayOf_eq_ok_iff : t.arrayOf = .ok u ↔ ∃ a, ArrayType.of t 1 = .ok a ∧ u = .array a := by
  rw [arrayOf]
  cases ArrayType.of t 1 <;> simp [Except.map, eq_comm]

theorem exists_arrayOf_iff :
    (∃ u, t.arrayOf = .ok u) ↔ t ∉ [JavaType.void, .null, .unknown] := by
  simp only [arrayOf_eq_ok_iff]
  constructor
  · rintro ⟨u, a, ha, -⟩
    exact (ArrayType.exists_of_iff.mp ⟨a, ha⟩).2
  · intro ht
    obtain ⟨a, ha⟩ := (ArrayType.exists_of_iff (n := 1)).mpr ⟨by decide, ht⟩
    exact ⟨.array a, a, ha, rfl⟩

theorem element_of_arrayOf_iff (h : t.arrayOf = .ok u) : u.element = .ok t ↔ t.Sized := by
  obtain ⟨a, ha, rfl⟩ := arrayOf_eq_ok_iff.mp h
  obtain ⟨-, hbase, hdimensions⟩ := ArrayType.of_eq_ok_iff.mp ha
  rw [element, ArrayType.element_eq, hdimensions, UInt32.add_sub_cancel, Except.ok.injEq, eq_comm]
  exact eq_stacked_dimensions_iff hbase

end JavaType

end ClassAtlas
