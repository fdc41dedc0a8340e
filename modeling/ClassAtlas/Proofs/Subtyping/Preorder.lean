import ClassAtlas.Proofs.Subtyping.Search
import Mathlib.Data.Set.Finite.Basic

/-!
# Assignability as an order

The rules of assignability over a given relation of classes, and what they
give over fixed declarations: with finitely many classes above each, every
search comes to an end, and its answers are reflexive and transitive as long
as the supertypes of arrays declare nothing but `Object`.
-/

namespace ClassAtlas

namespace Subtyping

/-! ## Rules -/

/-- When a type may be assigned to another, if `Sub` holds between a class and its superclasses. -/
inductive Assigns (Sub : ClassName → ClassName → Prop) : JavaType → JavaType → Prop where
  | primitive {p q : Primitive} (hwidens : p.widensTo q = true) :
      Assigns Sub (.primitive p) (.primitive q)
  | null {t : JavaType} (hreference : t.isReferenceLike = true) : Assigns Sub .null t
  | named {c d : ClassName} (hsub : Sub c d) : Assigns Sub (.named c) (.named d)
  | anyArray {a : ArrayType} {c : ClassName} (hsuper : isArraySupertype c = true) :
      Assigns Sub (.array a) (.named c)
  /-- Arrays of primitive values are below themselves only. -/
  | primitives {a : ArrayType} {p : Primitive} (hbase : a.base = .primitive p) :
      Assigns Sub (.array a) (.array a)
  | elements {a b : ArrayType} {c d : ClassName} (hdims : a.dimensions = b.dimensions)
      (hsource : a.base = .named c) (htarget : b.base = .named d) (hsub : Sub c d) :
      Assigns Sub (.array a) (.array b)
  /-- The elements are arrays themselves. -/
  | nested {a b : ArrayType} {c : ClassName} (hdims : b.dimensions < a.dimensions)
      (htarget : b.base = .named c) (hsuper : isArraySupertype c = true) :
      Assigns Sub (.array a) (.array b)

theorem arrayAssignable_iff {σ : Type} {ask : SupertypeQuery σ} {fuel : Nat} {a b : ArrayType}
    {s : σ} : (arrayAssignable ask fuel a b s).1 = true ↔
      Assigns (fun c d => (isSubclass ask fuel c d s).1 = true) (.array a) (.array b) := by
  obtain ⟨sourceBase, sourceDims⟩ := a
  obtain ⟨targetBase, targetDims⟩ := b
  simp only [arrayAssignable]
  constructor
  · intro h
    split at h
    · next hdims =>
      subst hdims
      cases sourceBase with
      | primitive p =>
        cases targetBase with
        | primitive q =>
          obtain rfl : p = q := by simpa using h
          exact .primitives rfl
        | named d => simp at h
      | named c =>
        cases targetBase with
        | primitive q => simp at h
        | named d => exact .elements rfl rfl rfl h
    · split at h
      · next hdims =>
        cases targetBase with
        | primitive q => simp at h
        | named d => exact .nested hdims rfl h
      · simp at h
  · intro h
    cases h with
    | primitives hbase =>
      subst hbase
      simp
    | elements hdims hsource htarget hsub =>
      subst hdims hsource htarget
      simpa using hsub
    | nested hdims htarget hsuper =>
      subst htarget
      rw [if_neg (UInt32.ne_of_lt hdims).symm, if_pos hdims]
      exact hsuper

theorem assignable_iff {σ : Type} {ask : SupertypeQuery σ} {fuel : Nat} {source target : JavaType}
    {s : σ} : (assignable ask fuel source target s).1 = true ↔
      Assigns (fun c d => (isSubclass ask fuel c d s).1 = true) source target := by
  constructor
  · intro h
    cases source with
    | array a =>
      cases target with
      | array b => exact arrayAssignable_iff.1 h
      | named d => exact .anyArray h
      | _ => simp [assignable] at h
    | named c =>
      cases target with
      | named d => exact .named h
      | _ => simp [assignable] at h
    | primitive p =>
      cases target with
      | primitive q => exact .primitive h
      | _ => simp [assignable] at h
    | null =>
      cases target with
      | named _ | array _ | null => exact .null rfl
      | _ => simp [assignable] at h
    | void => cases target <;> simp [assignable] at h
    | unknown => cases target <;> simp [assignable] at h
  · intro h
    cases h with
    | primitive hwidens => exact hwidens
    | null hreference =>
      cases target with
      | named _ | array _ | null => rfl
      | _ => cases hreference
    | named hsub => exact hsub
    | anyArray hsuper => exact hsuper
    | primitives hbase => exact arrayAssignable_iff.2 (.primitives hbase)
    | elements hdims hsource htarget hsub =>
      exact arrayAssignable_iff.2 (.elements hdims hsource htarget hsub)
    | nested hdims htarget hsuper => exact arrayAssignable_iff.2 (.nested hdims htarget hsuper)

namespace Assigns

variable {Sub Sup : ClassName → ClassName → Prop} {a b c : JavaType}

theorem mono (hsub : ∀ c d, Sub c d → Sup c d) (h : Assigns Sub a b) : Assigns Sup a b := by
  cases h with
  | primitive hwidens => exact .primitive hwidens
  | null hreference => exact .null hreference
  | named h => exact .named (hsub _ _ h)
  | anyArray hsuper => exact .anyArray hsuper
  | primitives hbase => exact .primitives hbase
  | elements hdims hsource htarget h => exact .elements hdims hsource htarget (hsub _ _ h)
  | nested hdims htarget hsuper => exact .nested hdims htarget hsuper

theorem refl (hrefl : ∀ c, Sub c c) (hvoid : a ≠ .void) (hunknown : a ≠ .unknown) :
    Assigns Sub a a := by
  cases a with
  | primitive p => exact .primitive (by cases p <;> rfl)
  | named c => exact .named (hrefl c)
  | array a =>
    cases hbase : a.base with
    | primitive p => exact .primitives hbase
    | named c => exact .elements rfl hbase hbase (hrefl c)
  | null => exact .null rfl
  | void => exact absurd rfl hvoid
  | unknown => exact absurd rfl hunknown

theorem isReferenceLike (h : Assigns Sub a b) (ha : a.isReferenceLike = true) :
    b.isReferenceLike = true := by
  cases h with
  | primitive => cases ha
  | null hreference => exact hreference
  | named | anyArray | primitives | elements | nested => rfl

end Assigns

theorem widensTo_trans {p q r : Primitive} (hpq : p.widensTo q = true) (hqr : q.widensTo r = true) :
    p.widensTo r = true := by
  have hall : ∀ q ∈ p.widenings, ∀ r ∈ q.widenings, r ∈ p.widenings := by
    cases p <;> decide
  simp only [Primitive.widensTo, List.contains_iff_mem] at *
  exact hall q hpq r hqr

/-- Arrays reach a class only as one of their supertypes, so nothing else may be above those. -/
theorem Assigns.trans {Sub : ClassName → ClassName → Prop}
    (htrans : ∀ c d e, Sub c d → Sub d e → Sub c e)
    (hsupers : ∀ c d, isArraySupertype c = true → Sub c d → isArraySupertype d = true)
    {a b c : JavaType} (hab : Assigns Sub a b) (hbc : Assigns Sub b c) : Assigns Sub a c := by
  cases hab with
  | primitive hpq =>
    cases hbc with
    | primitive hqr => exact .primitive (widensTo_trans hpq hqr)
  | null hreference => exact .null (hbc.isReferenceLike hreference)
  | named hcd =>
    cases hbc with
    | named hde => exact .named (htrans _ _ _ hcd hde)
  | anyArray hsuper =>
    cases hbc with
    | named hsub => exact .anyArray (hsupers _ _ hsuper hsub)
  | primitives => exact hbc
  | elements hdims hsource htarget hcd =>
    cases hbc with
    | anyArray hsuper => exact .anyArray hsuper
    | primitives hbase => simp [htarget] at hbase
    | elements hdims' hsource' htarget' hde =>
      obtain rfl : _ = _ := BaseType.named.inj (htarget.symm.trans hsource')
      exact .elements (hdims.trans hdims') hsource htarget' (htrans _ _ _ hcd hde)
    | nested hdims' htarget' hsuper => exact .nested (hdims ▸ hdims') htarget' hsuper
  | nested hdims htarget hsuper =>
    cases hbc with
    | anyArray hsuper' => exact .anyArray hsuper'
    | primitives hbase => simp [htarget] at hbase
    | elements hdims' hsource' htarget' hsub =>
      obtain rfl : _ = _ := BaseType.named.inj (htarget.symm.trans hsource')
      exact .nested (hdims' ▸ hdims) htarget' (hsupers _ _ hsuper hsub)
    | nested hdims' htarget' hsuper' =>
      exact .nested (UInt32.lt_trans hdims' hdims) htarget' hsuper'

/-! ## Fixed declarations -/

open Relation

/-- Answers from fixed declarations and keeps record of the classes asked for. -/
def declared (supers : ClassName → List ClassName) : SupertypeQuery (List ClassName) :=
  fun c asked => (supers c, asked ++ [c])

def Declares (supers : ClassName → List ClassName) (c d : ClassName) : Prop :=
  d ∈ supers c

/-- The search comes to an end with this answer: however many generations more it may take, it
neither asks nor answers anything else. -/
def Settles (supers : ClassName → List ClassName) (source target : JavaType) (answer : Bool) :
    Prop :=
  ∃ n asked, ∀ fuel ≥ n, assignable (declared supers) fuel source target [] = (answer, asked)

variable {supers : ClassName → List ClassName}

theorem learns_declared : Learns (declared supers) fun _ => Declares supers where
  keeps _ _ _ _ h := h
  told _ _ _ h := h
  tells _ _ _ h := h

theorem Settles.unique {source target : JavaType} {answer answer' : Bool}
    (h : Settles supers source target answer) (h' : Settles supers source target answer') :
    answer = answer' := by
  obtain ⟨n, asked, hn⟩ := h
  obtain ⟨m, asked', hm⟩ := h'
  have heq := (hn (max n m) (le_max_left n m)).symm.trans (hm (max n m) (le_max_right n m))
  exact (Prod.mk.inj heq).1

/-- A search that no more generations change has settled. -/
theorem settles_of_stable {source target : JavaType} {n : Nat}
    (h : ∀ fuel ≥ n, assignable (declared supers) fuel source target [] =
      assignable (declared supers) n source target []) :
    Settles supers source target (assignable (declared supers) n source target []).1 :=
  ⟨n, _, h⟩

theorem assigns_of_assignable {fuel : Nat} {source target : JavaType} {asked : List ClassName}
    (h : (assignable (declared supers) fuel source target asked).1 = true) :
    Assigns (Below (Declares supers)) source target :=
  (assignable_iff.mp h).mono fun _ _ hsub => learns_declared.below_of_isSubclass hsub

theorem isSubclass_of_below {sub super : ClassName} (h : Below (Declares supers) sub super) :
    ∃ n, ∀ fuel ≥ n, ∀ asked, (isSubclass (declared supers) fuel sub super asked).1 = true := by
  rcases h with rfl | rfl | hpath
  · exact ⟨0, fun _ _ _ => by simp [isSubclass]⟩
  · exact ⟨0, fun _ _ _ => by simp [isSubclass]⟩
  · obtain ⟨n, hpath⟩ := exists_within_of_transGen hpath
    exact ⟨n, fun _ hle _ => learns_declared.isSubclass_of_within (hpath.mono (fun _ _ => id) hle)⟩

theorem assignable_of_assigns {source target : JavaType}
    (h : Assigns (Below (Declares supers)) source target) :
    ∃ n, ∀ fuel ≥ n, ∀ asked,
      (assignable (declared supers) fuel source target asked).1 = true := by
  simp only [assignable_iff]
  cases h with
  | primitive hwidens => exact ⟨0, fun _ _ _ => .primitive hwidens⟩
  | null hreference => exact ⟨0, fun _ _ _ => .null hreference⟩
  | named hsub =>
    obtain ⟨n, hn⟩ := isSubclass_of_below hsub
    exact ⟨n, fun fuel hle asked => .named (hn fuel hle asked)⟩
  | anyArray hsuper => exact ⟨0, fun _ _ _ => .anyArray hsuper⟩
  | primitives hbase => exact ⟨0, fun _ _ _ => .primitives hbase⟩
  | elements hdims hsource htarget hsub =>
    obtain ⟨n, hn⟩ := isSubclass_of_below hsub
    exact ⟨n, fun fuel hle asked => .elements hdims hsource htarget (hn fuel hle asked)⟩
  | nested hdims htarget hsuper => exact ⟨0, fun _ _ _ => .nested hdims htarget hsuper⟩

/-! ## Finitely many classes above each -/

section Finite

variable (hfinite : ∀ c, {d | TransGen (Declares supers) c d}.Finite)

include hfinite

theorem exists_settles (source target : JavaType) :
    ∃ answer, Settles supers source target answer := by
  rcases assignable_cases source target (declared supers) with ⟨answer, h⟩ | ⟨sub, super, h⟩
  · exact ⟨answer, 0, [], fun fuel _ => h fuel []⟩
  · -- The start and all that is above it: nothing else is ever asked.
    let G := insert sub (hfinite sub).toFinset
    have hmem : ∀ c, c ∈ G ↔ c = sub ∨ TransGen (Declares supers) sub c := by simp [G]
    have hbound (c d : ClassName) (hc : c ∈ G) (hcd : Declares supers c d) : d ∈ G ∧ c ∈ G := by
      refine ⟨(hmem d).mpr (.inr ?_), hc⟩
      rcases (hmem c).mp hc with rfl | hc
      · exact .single hcd
      · exact hc.tail hcd
    refine ⟨_, settles_of_stable (n := G.card + 2) fun fuel hle => ?_⟩
    rw [h, h]
    exact learns_declared.isSubclass_eq_of_le (fun _ _ => hbound) (Finset.mem_insert_self _ _)
      le_rfl hle

theorem settles_true_iff {source target : JavaType} :
    Settles supers source target true ↔ Assigns (Below (Declares supers)) source target := by
  constructor
  · rintro ⟨n, asked, h⟩
    exact assigns_of_assignable (congrArg Prod.fst (h n le_rfl))
  · intro hassigns
    obtain ⟨answer, n, asked, h⟩ := exists_settles hfinite source target
    obtain ⟨m, htrue⟩ := assignable_of_assigns hassigns
    have hlarge := htrue (max n m) (le_max_right n m) []
    rw [h (max n m) (le_max_left n m)] at hlarge
    obtain rfl : answer = true := hlarge
    exact ⟨n, asked, h⟩

end Finite

/-! ## Supertypes of arrays -/

theorem isArraySupertype_iff {c : ClassName} : isArraySupertype c = true ↔
    c ∈ [ClassName.object, ClassName.cloneable, ClassName.serializable] := by
  simp [isArraySupertype, or_assoc]

section ArraySupertypes

variable (harrays : ∀ c ∈ [ClassName.object, ClassName.cloneable, ClassName.serializable],
  ∀ d ∈ supers c, d = ClassName.object)

include harrays

theorem eq_object_of_transGen {c d : ClassName} (hc : isArraySupertype c = true)
    (h : TransGen (Declares supers) c d) : d = ClassName.object := by
  induction h with
  | single hcd => exact harrays c (isArraySupertype_iff.mp hc) _ hcd
  | tail _ hstep ih =>
    subst ih
    exact harrays _ (by simp) _ hstep

theorem isArraySupertype_of_below {c d : ClassName} (hc : isArraySupertype c = true)
    (h : Below (Declares supers) c d) : isArraySupertype d = true := by
  rcases h with rfl | rfl | hpath
  · exact hc
  · rfl
  · rw [eq_object_of_transGen harrays hc hpath]
    rfl

theorem below_trans {c d e : ClassName} (hcd : Below (Declares supers) c d)
    (hde : Below (Declares supers) d e) : Below (Declares supers) c e := by
  rcases hcd with rfl | rfl | hcd
  · exact hde
  · rcases hde with rfl | rfl | hde
    · exact .inr (.inl rfl)
    · exact .inr (.inl rfl)
    · exact .inr (.inl (eq_object_of_transGen harrays rfl hde))
  · rcases hde with rfl | rfl | hde
    · exact .inr (.inr hcd)
    · exact .inr (.inl rfl)
    · exact .inr (.inr (hcd.trans hde))

end ArraySupertypes

/-- Over any declarations, cyclic or not, with finitely many classes above each. -/
theorem assignable_preorder {supers : ClassName → List ClassName}
    (hfinite : ∀ c, {d | TransGen (Declares supers) c d}.Finite)
    (harrays : ∀ c ∈ [ClassName.object, ClassName.cloneable, ClassName.serializable],
      ∀ d ∈ supers c, d = ClassName.object) :
    (∀ a b, ∃! answer, Settles supers a b answer) ∧
    (∀ a, a ≠ .void → a ≠ .unknown → Settles supers a a true) ∧
    (∀ a b c, Settles supers a b true → Settles supers b c true → Settles supers a c true) ∧
    ∀ t ∈ [JavaType.void, JavaType.unknown], ∀ a,
      Settles supers t a false ∧ Settles supers a t false := by
  refine ⟨?_, ?_, ?_, ?_⟩
  · intro a b
    obtain ⟨answer, hanswer⟩ := exists_settles hfinite a b
    exact ⟨answer, hanswer, fun _ hother => hother.unique hanswer⟩
  · intro a hvoid hunknown
    exact (settles_true_iff hfinite).mpr (.refl (fun _ => .inl rfl) hvoid hunknown)
  · intro a b c hab hbc
    rw [settles_true_iff hfinite] at hab hbc ⊢
    apply hab.trans _ _ hbc
    · intro c d e hcd hde
      exact below_trans harrays hcd hde
    · intro c d hc hcd
      exact isArraySupertype_of_below harrays hc hcd
  · intro t ht a
    simp only [List.mem_cons, List.not_mem_nil, or_false] at ht
    rcases ht with rfl | rfl
    · exact ⟨⟨0, [], fun _ _ => by cases a <;> rfl⟩, ⟨0, [], fun _ _ => by cases a <;> rfl⟩⟩
    · exact ⟨⟨0, [], fun _ _ => by cases a <;> rfl⟩, ⟨0, [], fun _ _ => by cases a <;> rfl⟩⟩

end Subtyping

/-! ## Written hierarchies -/

namespace Hierarchy

open Subtyping

variable {h : Hierarchy}

theorem exists_entry_of_declares {c d : ClassName} (hcd : Declares h.supertypes c d) :
    ∃ supers, (c, supers) ∈ h.entries ∧ d ∈ supers := by
  unfold Declares supertypes at hcd
  cases hlookup : h.entries.reverse.lookup c with
  | none => simp [hlookup] at hcd
  | some supers =>
    obtain ⟨before, after, hsplit, -⟩ := List.lookup_eq_some_iff.mp hlookup
    refine ⟨supers, List.mem_reverse.mp ?_, by simpa [hlookup] using hcd⟩
    simp [hsplit]

theorem finite_above (h : Hierarchy) (c : ClassName) :
    {d | Relation.TransGen (Declares h.supertypes) c d}.Finite := by
  refine Set.Finite.subset (h.entries.flatMap Prod.snd).toFinset.finite_toSet ?_
  intro d hd
  obtain ⟨e, -, hed⟩ := Relation.TransGen.tail'_iff.mp hd
  obtain ⟨supers, hentry, hmem⟩ := exists_entry_of_declares hed
  rw [Finset.mem_coe, List.mem_toFinset, List.mem_flatMap]
  exact ⟨(e, supers), hentry, hmem⟩

/-- The bound on generations does not show: the answer is that of a search without bound. -/
theorem settles_assignable (h : Hierarchy) (source target : JavaType) :
    Settles h.supertypes source target (h.assignable source target).1 := by
  refine settles_of_stable (n := h.depth) fun fuel hle => ?_
  rcases assignable_cases source target (declared h.supertypes) with ⟨answer, heq⟩ | ⟨_, _, heq⟩
  · rw [heq, heq]
  · rw [heq, heq]
    have hbound (c d : ClassName) (_ : True) (hcd : Declares h.supertypes c d) :
        True ∧ c ∈ (h.entries.map Prod.fst).toFinset := by
      obtain ⟨supers, hentry, -⟩ := exists_entry_of_declares hcd
      exact ⟨trivial, List.mem_toFinset.mpr (List.mem_map_of_mem hentry)⟩
    have hcard : (h.entries.map Prod.fst).toFinset.card ≤ h.entries.length := by
      simpa using List.toFinset_card_le (h.entries.map Prod.fst)
    exact learns_declared.isSubclass_eq_of_le (fun _ _ => hbound) trivial (by rw [depth]; omega) hle

/-- Two classes that extend each other, one of them with an interface. -/
def mutualExtension : Hierarchy where
  entries := [(⟨"p", "A"⟩, [⟨"p", "B"⟩]), (⟨"p", "B"⟩, [⟨"p", "A"⟩, ⟨"p", "I"⟩]),
    (ClassName.cloneable, [ClassName.object])]

/-- Through the cycle, and from arrays of arrays to what every array is below. -/
theorem assignable_preorder_mutualExtension :
    Settles mutualExtension.supertypes (.named ⟨"p", "A"⟩) (.named ⟨"p", "I"⟩) true ∧
    Settles mutualExtension.supertypes (.array ⟨.named ⟨"p", "A"⟩, 2, by decide⟩)
      (.named ClassName.object) true ∧
    Settles mutualExtension.supertypes (.named ⟨"p", "B"⟩) (.named ⟨"p", "B"⟩) true := by
  have horder := assignable_preorder mutualExtension.finite_above (by decide)
  have hchain := horder.2.2.1
  refine ⟨hchain _ (.named ⟨"p", "B"⟩) _ ?_ ?_,
    hchain _ (.array ⟨.named ClassName.cloneable, 1, by decide⟩) _ ?_ ?_,
    horder.2.1 _ nofun nofun⟩
  all_goals exact mutualExtension.settles_assignable _ _

end Hierarchy

end ClassAtlas
