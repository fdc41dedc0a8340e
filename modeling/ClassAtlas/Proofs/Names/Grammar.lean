import ClassAtlas.Descriptor.Reading
import ClassAtlas.Proofs.Attempts
import ClassAtlas.Proofs.Text.Segments

/-!
# The grammar of descriptors

The descriptors of types as a grammar, and what is asked of formats that are to
know it: they take exactly such a descriptor off the head of a text. No other
cut of the text would do, so that descriptors without anything between them are
told apart. The standard formats know the grammar.
-/

namespace ClassAtlas

namespace Descriptor

/-! ## Grammar -/

/-- The descriptors of all but arrays. Any name will do for a class that does not hold the sign that
ends it. -/
inductive SpellsBase : List Char → TypeDescriptor → Prop where
  | primitive (p : Primitive) : SpellsBase [letter p] (.primitive p)
  | void : SpellsBase ['V'] .void
  | object {name : List Char} (hend : ';' ∉ name) :
      SpellsBase ('L' :: name ++ [';']) (.object (String.ofList name))

/-- All descriptors. The brackets of an array are counted in a byte. -/
inductive Spells : List Char → TypeDescriptor → Prop where
  | base {d : List Char} {t : TypeDescriptor} (h : SpellsBase d t) : Spells d t
  | array {d : List Char} {t : TypeDescriptor} (h : SpellsBase d t) {n : UInt8} (hn : n ≠ 0) :
      Spells (List.replicate n.toNat '[' ++ d) (.array t n)

/-- The formats know the grammar: they find the descriptor that a text opens with, if there is one.
What follows it does not matter. -/
structure Known [Formats] : Prop where
  type : ∀ {text : String} {t : TypeDescriptor}, Formats.typeDescriptor text = some t ↔
    ∃ d rest, Spells d t ∧ text.toList = d ++ rest
  method : ∀ {text : String} {m : MethodDescriptor}, Formats.methodDescriptor text = some m ↔
    ∃ ds d rest, List.Forall₂ Spells ds m.params ∧ Spells d m.result ∧
      text.toList = '(' :: (ds.flatten ++ ')' :: (d ++ rest))

/-! ## Reading -/

theorem valueType?_eq_some_iff {spelled : TypeDescriptor} {t : JavaType} :
    spelled.valueType? = some t ↔ spelled.type? = some t ∧ t ≠ .void := by
  simp [TypeDescriptor.valueType?, Option.filter_eq_some_iff]

section

variable [Formats]

theorem readField_eq_ok_iff {text : String} {t : JavaType} :
    readField text = .ok t ↔
      ∃ spelled, Formats.typeDescriptor text = some spelled ∧ spelled.valueType? = some t := by
  rw [readField, ← Option.bind_eq_some_iff]
  cases (Formats.typeDescriptor text).bind TypeDescriptor.valueType? <;> simp

theorem readMethod_eq_ok_iff {text : String} {params : List JavaType} {result : JavaType} :
    readMethod text = .ok (params, result) ↔
      ∃ spelled, Formats.methodDescriptor text = some spelled ∧
        spelled.params.mapM TypeDescriptor.valueType? = some params ∧
        spelled.result.type? = some result := by
  have htypes (spelled : MethodDescriptor) : spelled.types? = some (params, result) ↔
      spelled.params.mapM TypeDescriptor.valueType? = some params ∧
        spelled.result.type? = some result := by
    simp [MethodDescriptor.types?, Option.bind_eq_some_iff]
  simp only [← htypes]
  rw [readMethod, ← Option.bind_eq_some_iff]
  cases (Formats.methodDescriptor text).bind MethodDescriptor.types? <;> simp

end

/-! ## The standard formats -/

theorem primitive?_eq_some_iff {c : Char} {p : Primitive} :
    primitive? c = some p ↔ c = letter p := by
  constructor
  · intro h
    have hletter : (letter p == c) = true := List.find?_some (p := (letter · == c)) h
    exact (beq_iff_eq.mp hletter).symm
  · rintro rfl
    cases p <;> rfl

theorem base?_eq_some_iff {cs rest : List Char} {t : TypeDescriptor} :
    base? cs = some (t, rest) ↔ ∃ d, SpellsBase d t ∧ cs = d ++ rest := by
  constructor
  · intro h
    unfold base? at h
    split at h
    · cases h
    · cases h
      exact ⟨_, .void, rfl⟩
    · obtain ⟨⟨name, after⟩, hsplit, heq⟩ := Option.map_eq_some_iff.mp h
      obtain ⟨rfl, hend⟩ := Text.splitFirst_eq_some.mp hsplit
      cases heq
      exact ⟨_, .object hend, by simp⟩
    · obtain ⟨p, hp, heq⟩ := Option.map_eq_some_iff.mp h
      cases heq
      rw [primitive?_eq_some_iff] at hp
      subst hp
      exact ⟨_, .primitive p, rfl⟩
  · rintro ⟨d, hd, rfl⟩
    cases hd with
    | primitive p => cases p <;> rfl
    | void => rfl
    | @object name hend =>
      have hsplit : Text.splitFirst ';' (name ++ [';'] ++ rest) = some (name, rest) :=
        Text.splitFirst_eq_some.mpr ⟨by simp, hend⟩
      rw [List.cons_append, List.cons_append, base?, hsplit]
      rfl

theorem dimensions_eq_iff {cs rest : List Char} {n : Nat} :
    dimensions cs = (n, rest) ↔ cs = List.replicate n '[' ++ rest ∧ rest.head? ≠ some '[' := by
  constructor
  · intro h
    fun_induction dimensions cs generalizing n with
    | case1 cs ih =>
      cases h
      obtain ⟨hcs, hrest⟩ := ih rfl
      exact ⟨by rw [List.replicate_succ, List.cons_append, ← hcs], hrest⟩
    | case2 cs hcs =>
      cases h
      refine ⟨rfl, fun hhead => ?_⟩
      obtain ⟨tail, rfl⟩ := List.head?_eq_some_iff.mp hhead
      exact hcs tail rfl
  · rintro ⟨rfl, hrest⟩
    induction n with
    | zero =>
      rw [List.replicate_zero, List.nil_append]
      unfold dimensions
      split
      · exact absurd rfl hrest
      · rfl
    | succ n ih => rw [List.replicate_succ, List.cons_append, dimensions, ih]

theorem SpellsBase.exists_cons {d : List Char} {t : TypeDescriptor} (h : SpellsBase d t) :
    ∃ c cs, d = c :: cs ∧ c ∉ ['[', ')'] := by
  cases h with
  | primitive p => exact ⟨letter p, [], rfl, by cases p <;> decide⟩
  | void => exact ⟨'V', [], rfl, by decide⟩
  | object => exact ⟨'L', _, rfl, by decide⟩

/-- A descriptor is neither empty nor taken for the end of a list. -/
theorem Spells.exists_cons {d : List Char} {t : TypeDescriptor} (h : Spells d t) :
    ∃ c cs, d = c :: cs ∧ c ≠ ')' := by
  cases h with
  | base h =>
    obtain ⟨c, cs, rfl, hc⟩ := h.exists_cons
    exact ⟨c, cs, rfl, fun heq => hc (by simp [heq])⟩
  | @array d t h n hn =>
    obtain ⟨m, hm⟩ : ∃ m, n.toNat = m + 1 :=
      Nat.exists_eq_succ_of_ne_zero fun hzero => hn (UInt8.toNat_inj.mp hzero)
    exact ⟨'[', List.replicate m '[' ++ d, by rw [hm]; rfl, by decide⟩

theorem spells_withDimensions_iff {d : List Char} {t : TypeDescriptor} :
    Spells d t ↔ ∃ n base e, n < UInt8.size ∧ SpellsBase e base ∧ d = List.replicate n '[' ++ e ∧
      t = withDimensions base n := by
  constructor
  · rintro (h | ⟨h, hn⟩)
    · exact ⟨0, t, d, by decide, h, rfl, rfl⟩
    · next e base n =>
      have hpositive : n.toNat ≠ 0 := fun hzero => hn (UInt8.toNat_inj.mp hzero)
      exact ⟨n.toNat, base, e, n.toNat_lt_size, h, rfl, by simp [withDimensions, hpositive]⟩
  · rintro ⟨n, base, e, hn, h, rfl, rfl⟩
    unfold withDimensions
    split
    · next hzero =>
      subst hzero
      exact .base h
    · next hzero =>
      have htoNat : (UInt8.ofNat n).toNat = n := UInt8.toNat_ofNat_of_lt hn
      have hpositive : UInt8.ofNat n ≠ 0 := by
        intro heq
        rw [heq] at htoNat
        exact hzero htoNat.symm
      simpa [htoNat] using Spells.array h hpositive

theorem one?_eq_some_iff {cs rest : List Char} {t : TypeDescriptor} :
    one? cs = some (t, rest) ↔ ∃ d, Spells d t ∧ cs = d ++ rest := by
  simp only [spells_withDimensions_iff]
  constructor
  · intro h
    unfold one? at h
    split at h
    next n after hdims =>
    obtain ⟨rfl, -⟩ := dimensions_eq_iff.mp hdims
    split at h
    · next hn =>
      obtain ⟨⟨base, last⟩, hbase, heq⟩ := Option.map_eq_some_iff.mp h
      cases heq
      obtain ⟨e, he, rfl⟩ := base?_eq_some_iff.mp hbase
      exact ⟨_, ⟨n, base, e, hn, he, rfl, rfl⟩, by rw [List.append_assoc]⟩
    · cases h
  · rintro ⟨_, ⟨n, base, e, hn, he, rfl, rfl⟩, rfl⟩
    have hbase : base? (e ++ rest) = some (base, rest) := base?_eq_some_iff.mpr ⟨e, he, rfl⟩
    obtain ⟨c, cs, rfl, hc⟩ := he.exists_cons
    have hhead : (c :: cs ++ rest).head? ≠ some '[' := fun heq =>
      hc (Option.some.inj heq ▸ List.mem_cons_self)
    have hdims : dimensions (List.replicate n '[' ++ (c :: cs) ++ rest) = (n, c :: cs ++ rest) :=
      dimensions_eq_iff.mpr ⟨by rw [List.append_assoc], hhead⟩
    rw [one?, hdims]
    dsimp only
    rw [if_pos hn, hbase]
    rfl

theorem spells_of_many? {fuel : Nat} {cs rest : List Char} {types : List TypeDescriptor}
    (h : many? fuel cs = some (types, rest)) :
    ∃ ds, List.Forall₂ Spells ds types ∧ cs = ds.flatten ++ ')' :: rest := by
  fun_induction many? fuel cs generalizing types rest with
  | case1 =>
    cases h
    exact ⟨[], .nil, rfl⟩
  | case2 => cases h
  | case3 fuel cs _ ih =>
    obtain ⟨⟨first, after⟩, hfirst, h⟩ := Option.bind_eq_some_iff.mp h
    obtain ⟨⟨others, last⟩, hothers, h⟩ := Option.bind_eq_some_iff.mp h
    cases h
    obtain ⟨d, hd, rfl⟩ := one?_eq_some_iff.mp hfirst
    obtain ⟨ds, hds, rfl⟩ := ih _ hothers
    exact ⟨d :: ds, .cons hd hds, by rw [List.flatten_cons, List.append_assoc]⟩

theorem many?_of_spells {ds : List (List Char)} {types : List TypeDescriptor}
    (h : List.Forall₂ Spells ds types) (rest : List Char) {fuel : Nat}
    (hfuel : ds.length ≤ fuel) : many? fuel (ds.flatten ++ ')' :: rest) = some (types, rest) := by
  induction h generalizing fuel with
  | nil => cases fuel <;> rfl
  | @cons d t ds types hd _ ih =>
    obtain ⟨fuel, rfl⟩ : ∃ n, fuel = n + 1 := ⟨fuel - 1, by rw [List.length_cons] at hfuel; omega⟩
    have hfirst : one? (d ++ (ds.flatten ++ ')' :: rest)) = some (t, ds.flatten ++ ')' :: rest) :=
      one?_eq_some_iff.mpr ⟨d, hd, rfl⟩
    have hrest : many? fuel (ds.flatten ++ ')' :: rest) = some (types, rest) :=
      ih (Nat.le_of_succ_le_succ hfuel)
    -- The list is not taken to end here, since no descriptor opens with a parenthesis.
    obtain ⟨c, cs, rfl, hc⟩ := hd.exists_cons
    rw [List.flatten_cons, List.append_assoc, many?, hfirst]
    · simp [hrest]
    · rintro tail heq
      exact hc (List.cons.inj heq).1

theorem length_le_length_flatten {ds : List (List Char)} {types : List TypeDescriptor}
    (h : List.Forall₂ Spells ds types) : ds.length ≤ ds.flatten.length := by
  induction h with
  | nil => exact Nat.le_refl 0
  | cons hd _ ih =>
    obtain ⟨c, cs, rfl, -⟩ := hd.exists_cons
    simp only [List.flatten_cons, List.length_append, List.length_cons]
    omega

theorem parseMethod?_eq_some_iff {text : String} {m : MethodDescriptor} :
    parseMethod? text = some m ↔ ∃ ds d rest, List.Forall₂ Spells ds m.params ∧
      Spells d m.result ∧ text.toList = '(' :: (ds.flatten ++ ')' :: (d ++ rest)) := by
  constructor
  · intro h
    unfold parseMethod? at h
    split at h
    · next htext =>
      obtain ⟨⟨params, after⟩, hparams, h⟩ := Option.bind_eq_some_iff.mp h
      obtain ⟨⟨result, rest⟩, hresult, h⟩ := Option.bind_eq_some_iff.mp h
      cases h
      obtain ⟨ds, hds, rfl⟩ := spells_of_many? hparams
      obtain ⟨d, hd, rfl⟩ := one?_eq_some_iff.mp hresult
      exact ⟨ds, d, rest, hds, hd, htext⟩
    · cases h
  · rintro ⟨ds, d, rest, hds, hd, htext⟩
    have hlength : ds.length ≤ (ds.flatten ++ ')' :: (d ++ rest)).length := by
      rw [List.length_append]
      exact Nat.le_add_right_of_le (length_le_length_flatten hds)
    have hparams := many?_of_spells hds (d ++ rest) hlength
    have hresult : one? (d ++ rest) = some (m.result, rest) := one?_eq_some_iff.mpr ⟨d, hd, rfl⟩
    simp only [parseMethod?, htext, hparams, hresult, Option.bind_eq_bind, Option.bind_some]
    rfl

theorem known_standard : @Known .standard where
  type := by
    intro text t
    have hfirst : parseType? text = some t ↔ ∃ rest, one? text.toList = some (t, rest) := by
      simp [parseType?, Option.map_eq_some_iff]
    refine hfirst.trans ?_
    simp only [one?_eq_some_iff]
    exact exists_comm
  method := parseMethod?_eq_some_iff

end Descriptor

end ClassAtlas
