import ClassAtlas.Proofs.JavaType.Dimensions
import ClassAtlas.Proofs.Subtyping.Preorder

/-!
# Arrays layer by layer

Array types are compared in one step, by their bases and by how many
dimensions stand over them. The rule of the language goes one layer at a time:
arrays compare as their elements do, except that primitive elements are never
converted. Both are the same comparison, down to the classes asked on the way,
unless an array without dimensions meets one that has dimensions.
-/

namespace ClassAtlas

namespace JavaType

def isPrimitive : JavaType → Bool
  | primitive _ => true
  | _ => false

/-! ## Layers -/

theorem dimensions_element_lt {a : ArrayType} (h : a.dimensions ≠ 0) :
    a.element.dimensions.toNat < a.dimensions.toNat := by
  rw [ArrayType.element_eq, dimensions_stacked, ← UInt32.lt_iff_toNat_lt]
  grind

end JavaType

namespace Subtyping

open JavaType (stacked)

variable {σ : Type}

/-! ## One layer -/

/-- Whether an element of type `source` may stand where the elements are of type `target`. -/
def elementAssignable (ask : SupertypeQuery σ) (fuel : Nat) (source target : JavaType) (s : σ) :
    Bool × σ :=
  if source.isPrimitive || target.isPrimitive then (source == target, s)
  else assignable ask fuel source target s

/-- Whether every array type is below the base. -/
def holdsArrays : BaseType → Bool
  | .named c => isArraySupertype c
  | .primitive _ => false

/-- Both arrays have dimensions or both have none, or the base of the second holds no arrays. -/
def Matched (a b : ArrayType) : Prop :=
  (a.dimensions = 0 ↔ b.dimensions = 0) ∨ holdsArrays b.base = false

section

variable (ask : SupertypeQuery σ) (fuel : Nat) (p q : BaseType) {m n : UInt32} (s : σ)

theorem assignable_of_same : assignable ask fuel (.array ⟨p, n⟩) (.array ⟨q, n⟩) s =
    elementAssignable ask fuel p.type q.type s := by
  cases p <;> cases q <;>
    simp [assignable, arrayAssignable, elementAssignable, BaseType.type, JavaType.isPrimitive]

theorem assignable_of_more (h : n < m) :
    assignable ask fuel (.array ⟨p, m⟩) (.array ⟨q, n⟩) s = (holdsArrays q, s) := by
  have hne : m ≠ n := (UInt32.ne_of_lt h).symm
  cases q <;> simp [assignable, arrayAssignable, holdsArrays, hne, h]

theorem assignable_of_fewer (h : m < n) :
    assignable ask fuel (.array ⟨p, m⟩) (.array ⟨q, n⟩) s = (false, s) := by
  have hne : m ≠ n := UInt32.ne_of_lt h
  simp [assignable, arrayAssignable, hne, UInt32.lt_asymm h]

/-! The same for elements, where a type without dimensions is a base. -/

theorem elementAssignable_of_same : elementAssignable ask fuel (stacked p n) (stacked q n) s =
    elementAssignable ask fuel p.type q.type s := by
  unfold stacked
  split
  · rfl
  · exact assignable_of_same ask fuel p q s

theorem elementAssignable_of_more (h : n < m) :
    elementAssignable ask fuel (stacked p m) (stacked q n) s = (holdsArrays q, s) := by
  have hm : m ≠ 0 := by grind
  unfold stacked
  rw [if_neg hm]
  split
  · cases q <;> rfl
  · exact assignable_of_more ask fuel p q s h

theorem elementAssignable_of_fewer (h : m < n) :
    elementAssignable ask fuel (stacked p m) (stacked q n) s = (false, s) := by
  have hn : n ≠ 0 := by grind
  unfold stacked
  rw [if_neg hn]
  split
  · cases p <;> rfl
  · exact assignable_of_fewer ask fuel p q s h

end

/-- One layer less leaves the bases as they are, and the comparison of the dimensions unless just
one side has none: that side then has the most. -/
theorem assignable_eq_elements_iff (ask : SupertypeQuery σ) (fuel : Nat) (a b : ArrayType) (s : σ) :
    assignable ask fuel (.array a) (.array b) s =
      elementAssignable ask fuel a.element b.element s ↔ Matched a b := by
  obtain ⟨p, m⟩ := a
  obtain ⟨q, n⟩ := b
  simp only [ArrayType.element_eq, Matched]
  by_cases hmore : n < m
  · rw [assignable_of_more ask fuel p q s hmore]
    by_cases hn : n = 0
    · have hfewer : m - 1 < n - 1 := by grind
      have hm : m ≠ 0 := by grind
      rw [elementAssignable_of_fewer ask fuel p q s hfewer]
      simp [hn, hm]
    · have hmore' : n - 1 < m - 1 := by grind
      have hm : m ≠ 0 := by grind
      rw [elementAssignable_of_more ask fuel p q s hmore']
      simp [hn, hm]
  · by_cases hfewer : m < n
    · rw [assignable_of_fewer ask fuel p q s hfewer]
      by_cases hm : m = 0
      · have hmore' : n - 1 < m - 1 := by grind
        have hn : n ≠ 0 := by grind
        rw [elementAssignable_of_more ask fuel p q s hmore']
        simp [hn, hm]
      · have hfewer' : m - 1 < n - 1 := by grind
        have hn : n ≠ 0 := by grind
        rw [elementAssignable_of_fewer ask fuel p q s hfewer']
        simp [hn, hm]
    · obtain rfl : m = n := by grind
      simp [assignable_of_same, elementAssignable_of_same]

/-- Where the dimensions differ, the comparison asks nobody, and neither does that of the elements. -/
theorem exists_answer_of_ne (ask : SupertypeQuery σ) {a b : ArrayType}
    (h : a.dimensions ≠ b.dimensions) :
    (∃ answer, ∀ fuel s, assignable ask fuel (.array a) (.array b) s = (answer, s)) ∧
    ∃ answer, ∀ fuel s, elementAssignable ask fuel a.element b.element s = (answer, s) := by
  rcases a with ⟨p, m⟩
  rcases b with ⟨q, n⟩
  simp only [ArrayType.element_eq]
  constructor
  · by_cases hmore : n < m
    · exact ⟨_, fun fuel s => assignable_of_more ask fuel p q s hmore⟩
    · exact ⟨_, fun fuel s => assignable_of_fewer ask fuel p q s (by grind)⟩
  · by_cases hmore : n - 1 < m - 1
    · exact ⟨_, fun fuel s => elementAssignable_of_more ask fuel p q s hmore⟩
    · exact ⟨_, fun fuel s => elementAssignable_of_fewer ask fuel p q s (by grind)⟩

/-! ## All layers -/

/-- Assignability with the rule for arrays taken one layer at a time, while there are layers. -/
def layered (ask : SupertypeQuery σ) (fuel : Nat) (source target : JavaType) (s : σ) : Bool × σ :=
  match source, target with
  | .array a, .array b =>
    if a.dimensions = 0 ∨ b.dimensions = 0 then assignable ask fuel (.array a) (.array b) s
    else if a.element.isPrimitive || b.element.isPrimitive then (a.element == b.element, s)
    else layered ask fuel a.element b.element s
  | source, target => assignable ask fuel source target s
termination_by source.dimensions.toNat
decreasing_by exact JavaType.dimensions_element_lt (by simp_all)

theorem layered_eq_assignable (ask : SupertypeQuery σ) (fuel : Nat) (source target : JavaType)
    (s : σ) : layered ask fuel source target s = assignable ask fuel source target s := by
  fun_induction layered ask fuel source target s with
  | case1 => rfl
  | case2 a b hlayers hprimitive =>
    rw [(assignable_eq_elements_iff ..).mpr (.inl (by simp_all)), elementAssignable,
      if_pos hprimitive]
  | case3 a b hlayers hprimitive ih =>
    rw [(assignable_eq_elements_iff ..).mpr (.inl (by simp_all)), elementAssignable,
      if_neg hprimitive, ih]
  | case4 source target => rfl

/-! ## Settled comparisons -/

/-- What the elements settle on. -/
def ElementsSettle (supers : ClassName → List ClassName) (x y : JavaType) (answer : Bool) : Prop :=
  if x.isPrimitive || y.isPrimitive then answer = (x == y) else Settles supers x y answer

theorem elementsSettle_iff {supers : ClassName → List ClassName} {x y : JavaType} {answer : Bool} :
    ElementsSettle supers x y answer ↔
      ∃ n asked, ∀ fuel ≥ n, elementAssignable (declared supers) fuel x y [] = (answer, asked) := by
  unfold ElementsSettle elementAssignable
  split
  · constructor
    · rintro rfl
      exact ⟨0, [], fun _ _ => rfl⟩
    · rintro ⟨n, asked, h⟩
      exact (congrArg Prod.fst (h n le_rfl)).symm
  · rfl

theorem settles_iff_elementsSettle_iff (supers : ClassName → List ClassName) (a b : ArrayType) :
    (∀ answer, Settles supers (.array a) (.array b) answer ↔
      ElementsSettle supers a.element b.element answer) ↔ Matched a b := by
  simp only [elementsSettle_iff]
  constructor
  · intro h
    by_cases hdims : a.dimensions = b.dimensions
    · exact .inl (by rw [hdims])
    · obtain ⟨⟨answer, harrays⟩, _, helements⟩ := exists_answer_of_ne (declared supers) hdims
      obtain ⟨n, asked, hsettles⟩ := (h answer).mp ⟨0, [], fun fuel _ => harrays fuel []⟩
      have hsame := (helements n []).symm.trans (hsettles n le_rfl)
      apply (assignable_eq_elements_iff (declared supers) n a b []).mp
      rw [harrays, helements, (Prod.mk.inj hsame).1]
  · intro h answer
    simp only [Settles, (assignable_eq_elements_iff ..).mpr h]

end Subtyping

end ClassAtlas
