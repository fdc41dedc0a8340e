import ClassAtlas.Proofs.JavaType.Dimensions
import ClassAtlas.Proofs.Names.Spellings
import ClassAtlas.Text.Identifier

/-!
# Written descriptors

What is written for a type is one of its descriptors, and so it is read as the
type again, alone or among the types of a method. Whatever is read has types
of values in it, and void for a result at most.
-/

namespace ClassAtlas

/-! ## Proper names -/

namespace Text

/-- A dot between two names makes a proper name of two proper names, and of no others. -/
theorem isDottedIdentifier_append (front back : String) :
    isDottedIdentifier (front ++ "." ++ back) =
      (isDottedIdentifier front && isDottedIdentifier back) := by
  have hdot : (front ++ "." ++ back).toList = front.toList ++ '.' :: back.toList := by simp
  rw [isDottedIdentifier, hdot, split_append_cons, List.all_append]
  rfl

theorem not_isDottedIdentifier_empty : isDottedIdentifier "" = false := rfl

end Text

namespace ClassName

/-- The identity with this full name: its simple name is what follows the last dot. -/
structure IsCalled (c : ClassName) (name : String) : Prop where
  dotted : c.dotted = name
  simple : '.' ∉ c.simple.toList

theorem isCalled_ofDotted {name : String} (h : Text.isDottedIdentifier name = true) :
    (ofDotted name).IsCalled name := by
  refine ⟨(dotted_ofDotted_iff name).mpr ?_, no_dot_ofDotted name⟩
  rintro ⟨back, -, rfl⟩
  have hfront : "." ++ back = "" ++ "." ++ back := by simp
  rw [hfront, Text.isDottedIdentifier_append, Text.not_isDottedIdentifier_empty] at h
  cases h

end ClassName

namespace Descriptor

/-! ## Writing -/

/-- The bases whose descriptors are read as they were written: a class has a name that some text is
read as, with identifiers for its segments. -/
def IsProper : BaseType → Prop
  | .primitive _ => True
  | .named c => c.Spelled ∧ Text.isDottedIdentifier c.dotted = true

/-- The types of values that have a descriptor, class names being proper. -/
inductive Writable : JavaType → Prop where
  | base {base : BaseType} (hbase : IsProper base) : Writable base.type
  | array {a : ArrayType} (hbase : IsProper a.base) (hpositive : 1 ≤ a.dimensions.toNat)
      (hbyte : a.dimensions.toNat < UInt8.size) : Writable (.array a)

theorem isIdentifierPart_of_mem {segment : List Char} (h : Text.isIdentifier segment = true)
    {c : Char} (hc : c ∈ segment) : Text.isIdentifierPart c = true := by
  cases segment with
  | nil => cases h
  | cons first rest =>
    obtain ⟨hfirst, hrest⟩ := Bool.and_eq_true_iff.mp h
    rcases List.mem_cons.mp hc with rfl | hc
    · rw [Text.isIdentifierPart]
      exact Bool.or_eq_true_iff.mpr (.inl hfirst)
    · exact List.all_eq_true.mp hrest c hc

theorem not_mem_of_isDottedIdentifier {name : String} (h : Text.isDottedIdentifier name = true)
    {c : Char} (hdot : c ≠ '.') (hc : Text.isIdentifierPart c = false) : c ∉ name.toList := by
  refine Text.not_mem_of_forall_split hdot fun segment hsegment hmem => ?_
  have hpart := isIdentifierPart_of_mem (List.all_eq_true.mp h segment hsegment) hmem
  rw [hc] at hpart
  cases hpart

theorem ofInternal_of_isProper {c : ClassName} (h : IsProper (.named c)) :
    ClassName.ofInternal c.internal = c := by
  rw [ClassName.ofInternal_internal, ClassName.ofDotted_dotted h.1.no_dot]
  exact not_mem_of_isDottedIdentifier h.2 (by decide) (by decide +kernel)

theorem exists_spellsBase_writeBase {base : BaseType} (h : IsProper base) :
    ∃ t, SpellsBase (writeBase base) t ∧ t.type? = some base.type := by
  cases base with
  | primitive p => exact ⟨.primitive p, .primitive p, rfl⟩
  | named c =>
    have hread := ofInternal_of_isProper h
    obtain ⟨-, hname⟩ := h
    have hnonempty : c.internal ≠ "" := by
      intro hempty
      have hdotted : c.dotted = "" := by
        simpa [ClassName.internal, Text.exchange] using hempty
      rw [hdotted] at hname
      cases hname
    have hend : ';' ∉ c.internal.toList := by
      intro hmem
      rw [ClassName.internal, Text.exchange, String.toList_ofList, List.mem_map] at hmem
      obtain ⟨x, hx, heq⟩ := hmem
      split at heq
      · cases heq
      · subst heq
        exact not_mem_of_isDottedIdentifier hname (by decide) (by decide +kernel) hx
    refine ⟨_, .object hend, ?_⟩
    simp [TypeDescriptor.type?, hnonempty, hread, BaseType.type]

theorem Writable.ne_void {t : JavaType} (h : Writable t) : t ≠ .void := by
  cases h with
  | @base base => cases base <;> simp [BaseType.type]
  | array => simp

theorem Writable.exists_write {t : JavaType} (h : Writable t) :
    ∃ d spelled, write? t = some d ∧ Spells d spelled ∧ spelled.type? = some t := by
  cases h with
  | @base base hbase =>
    obtain ⟨spelled, hspells, htype⟩ := exists_spellsBase_writeBase hbase
    exact ⟨writeBase base, spelled, by cases base <;> rfl, .base hspells, htype⟩
  | @array a hbase hpositive hbyte =>
    obtain ⟨spelled, hspells, htype⟩ := exists_spellsBase_writeBase hbase
    have hcount : a.dimensions.toUInt8.toNat = a.dimensions.toNat := by
      rw [UInt32.toNat_toUInt8]
      exact Nat.mod_eq_of_lt hbyte
    have hne : a.dimensions.toUInt8 ≠ 0 := by
      intro hzero
      rw [hzero] at hcount
      exact absurd hpositive (by rw [← hcount]; decide)
    have hwide : a.dimensions.toUInt8.toUInt32 = a.dimensions := by
      apply UInt32.toNat_inj.mp
      rw [UInt8.toNat_toUInt32, hcount]
    have harray : ArrayType.of a.base.type a.dimensions = .ok a := by
      refine ArrayType.of_eq_ok_iff.mpr ⟨?_, ?_, ?_⟩
      · intro hzero
        rw [hzero] at hpositive
        exact absurd hpositive (by decide)
      · cases a.base <;> rfl
      · cases a.base <;> simp [BaseType.type, JavaType.dimensions]
    refine ⟨_, .array spelled a.dimensions.toUInt8, rfl, ?_, ?_⟩
    · rw [← hcount]
      exact .array hspells hne
    · simp [TypeDescriptor.type?, htype, hwide, harray, Except.toOption]

theorem exists_mapM_write {types : List JavaType} (h : ∀ t ∈ types, Writable t) :
    ∃ ds spelled, types.mapM write? = some ds ∧ List.Forall₂ Spells ds spelled ∧
      spelled.mapM TypeDescriptor.valueType? = some types := by
  induction types with
  | nil => exact ⟨[], [], rfl, .nil, rfl⟩
  | cons t types ih =>
    have ht := h t List.mem_cons_self
    obtain ⟨d, first, hd, hspells, htype⟩ := ht.exists_write
    obtain ⟨ds, others, hds, hall, htypes⟩ := ih fun u hu => h u (List.mem_cons_of_mem t hu)
    have hvalue := valueType?_eq_some_iff.mpr ⟨htype, ht.ne_void⟩
    exact ⟨d :: ds, first :: others, by simp [List.mapM_cons, hd, hds], .cons hspells hall,
      by simp [List.mapM_cons, hvalue, htypes]⟩

/-! ## What is read -/

/-- A type that values have: there are dimensions only over a base that is none of the types without
values and no array itself. -/
structure IsValue (t : JavaType) : Prop where
  hasValues : t ∉ [JavaType.void, .null, .unknown]
  flat : ∀ a, t = .array a → 1 ≤ a.dimensions.toNat ∧ a.dimensions.toNat < UInt8.size ∧
    a.base.type ∉ [JavaType.void, .null, .unknown] ∧ ∀ b, a.base.type ≠ .array b

/-- All but arrays are spelled for a primitive type, a class or void. -/
theorem SpellsBase.type?_cases {d : List Char} {spelled : TypeDescriptor} {t : JavaType}
    (h : SpellsBase d spelled) (htype : spelled.type? = some t) :
    (∃ base : BaseType, t = base.type) ∨ t = .void := by
  cases h with
  | primitive p => exact .inl ⟨.primitive p, (Option.some.inj htype).symm⟩
  | void => exact .inr (Option.some.inj htype).symm
  | object =>
    rw [TypeDescriptor.type?] at htype
    split at htype
    · cases htype
    · exact .inl ⟨.named _, (Option.some.inj htype).symm⟩

theorem BaseType.not_mem_type (base : BaseType) :
    base.type ∉ [JavaType.void, .null, .unknown] := by
  cases base <;> simp [BaseType.type]

/-- The element of an array is spelled without brackets, so no more of them are counted than a byte
holds. What is void makes no array. -/
theorem Spells.isValue_of_type? {d : List Char} {spelled : TypeDescriptor} {t : JavaType}
    (h : Spells d spelled) (htype : spelled.type? = some t) : IsValue t ∨ t = .void := by
  cases h with
  | base h =>
    rcases h.type?_cases htype with ⟨base, rfl⟩ | rfl
    · refine .inl ⟨BaseType.not_mem_type base, fun a ha => ?_⟩
      exact absurd ha (base.type_ne_array a)
    · exact .inr rfl
  | @array d element h n hn =>
    obtain ⟨inner, hinner, htype⟩ := Option.bind_eq_some_iff.mp htype
    obtain ⟨a, ha, htype⟩ := Option.bind_eq_some_iff.mp htype
    cases htype
    have hof : ArrayType.of inner n.toUInt32 = .ok a := by
      cases hcase : ArrayType.of inner n.toUInt32 <;> simp_all [Except.toOption]
    obtain ⟨-, hbase, hdimensions⟩ := ArrayType.of_eq_ok_iff.mp hof
    have hflat : inner.dimensions = 0 := by
      rcases h.type?_cases hinner with ⟨base, rfl⟩ | rfl
      · cases base <;> rfl
      · rfl
    have hcount : a.dimensions.toNat = n.toNat := by
      rw [hdimensions, hflat, UInt32.zero_add, UInt8.toNat_toUInt32]
    refine .inl ⟨by simp, ?_⟩
    rintro _ ⟨⟩
    refine ⟨?_, hcount ▸ n.toNat_lt_size, BaseType.not_mem_type _, a.base.type_ne_array⟩
    rw [hcount]
    exact Nat.one_le_iff_ne_zero.mpr fun hzero => hn (UInt8.toNat_inj.mp hzero)

theorem exists_spelling_of_mem {ds : List (List Char)} {all : List TypeDescriptor}
    (h : List.Forall₂ Spells ds all) : ∀ spelled ∈ all, ∃ d, Spells d spelled := by
  induction h with
  | nil => simp
  | cons hfirst _ ih => exact List.forall_mem_cons.mpr ⟨⟨_, hfirst⟩, ih⟩

/-- What is written for a type is read as the type. -/
theorem Writable.exists_readField [Formats] (h : Known) {t : JavaType} (ht : Writable t) :
    ∃ d, write? t = some d ∧ readField (String.ofList d) = .ok t := by
  obtain ⟨d, spelled, hd, hspells, htype⟩ := ht.exists_write
  refine ⟨d, hd, readField_eq_ok_iff.mpr ⟨spelled, h.type.mpr ⟨d, [], hspells, by simp⟩, ?_⟩⟩
  exact valueType?_eq_some_iff.mpr ⟨htype, ht.ne_void⟩

/-- So are types one after the other. -/
theorem exists_readMethod [Formats] (h : Known) {params : List JavaType} {result : JavaType}
    (hparams : ∀ t ∈ params, Writable t) (hresult : Writable result ∨ result = .void) :
    ∃ ds d, params.mapM write? = some ds ∧ write? result = some d ∧
      readMethod (String.ofList ('(' :: ds.flatten ++ ')' :: d)) = .ok (params, result) := by
  obtain ⟨ds, spelled, hds, hall, htypes⟩ := exists_mapM_write hparams
  obtain ⟨d, last, hd, hspells, htype⟩ :
      ∃ d last, write? result = some d ∧ Spells d last ∧ last.type? = some result := by
    rcases hresult with hresult | rfl
    · exact hresult.exists_write
    · exact ⟨['V'], .void, rfl, .base .void, rfl⟩
  refine ⟨ds, d, hds, hd, readMethod_eq_ok_iff.mpr ⟨⟨spelled, last⟩, ?_, htypes, htype⟩⟩
  exact h.method.mpr ⟨ds, d, [], hall, hspells, by simp⟩

/-- In formats that know descriptors, what is written for a type is read as the type, and so is what
is written for a method. Whatever text is read, the types in it are types of values, but for a void
result. -/
theorem reading_inverts_writing [Formats] (h : Known) :
    (∀ t, Writable t → ∃ d, write? t = some d ∧ readField (String.ofList d) = .ok t) ∧
    (∀ params result, (∀ t ∈ params, Writable t) → (Writable result ∨ result = .void) →
      ∃ ds d, params.mapM write? = some ds ∧ write? result = some d ∧
        readMethod (String.ofList ('(' :: ds.flatten ++ ')' :: d)) = .ok (params, result)) ∧
    (∀ text t, readField text = .ok t → IsValue t) ∧
    (∀ text params result, readMethod text = .ok (params, result) →
      (∀ t ∈ params, IsValue t) ∧ (IsValue result ∨ result = .void)) := by
  refine ⟨fun t ht => ht.exists_readField h, fun _ _ => exists_readMethod h, ?_, ?_⟩
  · intro text t hread
    obtain ⟨spelled, hspelled, htype⟩ := readField_eq_ok_iff.mp hread
    obtain ⟨htype, hvoid⟩ := valueType?_eq_some_iff.mp htype
    obtain ⟨d, -, hspells, -⟩ := h.type.mp hspelled
    exact (hspells.isValue_of_type? htype).resolve_right hvoid
  · intro text params result hread
    obtain ⟨spelled, hspelled, htypes, htype⟩ := readMethod_eq_ok_iff.mp hread
    obtain ⟨ds, d, -, hall, hspells, -⟩ := h.method.mp hspelled
    refine ⟨fun t ht => ?_, hspells.isValue_of_type? htype⟩
    obtain ⟨one, hone, hvalue⟩ := exists_of_mem_mapM_eq_some htypes t ht
    obtain ⟨e, he⟩ := exists_spelling_of_mem hall one hone
    obtain ⟨hvalue, hvoid⟩ := valueType?_eq_some_iff.mp hvalue
    exact (he.isValue_of_type? hvalue).resolve_right hvoid

/-- Nested arrays of a class between primitive types, and nothing between the descriptors. -/
theorem reading_inverts_writing_strings :
    let strings : JavaType := .array ⟨.named ClassName.string, 2⟩
    Writable strings ∧ readField "[[Ljava/lang/String;" = .ok strings ∧
    readMethod "(I[[Ljava/lang/String;J)V" =
      .ok ([.primitive .int, strings, .primitive .long], .void) := by
  intro strings
  have hname : ClassName.ofDotted "java.lang.String" = ClassName.string := by decide +kernel
  have hproper : IsProper (.named ClassName.string) := ⟨hname ▸ .dotted _, by decide +kernel⟩
  have hstrings : Writable strings := .array hproper (by decide) (by decide)
  have hparams : ∀ t ∈ [.primitive .int, strings, .primitive .long], Writable t := by
    simp only [List.forall_mem_cons]
    exact ⟨@Writable.base (.primitive .int) trivial, hstrings,
      @Writable.base (.primitive .long) trivial, by simp⟩
  obtain ⟨hfield, hmethod, -, -⟩ := reading_inverts_writing known_standard
  obtain ⟨d, hd, hread⟩ := hfield strings hstrings
  obtain rfl : "[[Ljava/lang/String;".toList = d :=
    Option.some.inj (Eq.trans (by decide +kernel) hd)
  obtain ⟨ds, e, hds, he, hreadAll⟩ := hmethod _ .void hparams (.inr rfl)
  obtain rfl : ["I".toList, "[[Ljava/lang/String;".toList, "J".toList] = ds :=
    Option.some.inj (Eq.trans (by decide +kernel) hds)
  obtain rfl : "V".toList = e := Option.some.inj he
  exact ⟨hstrings, hread, hreadAll⟩

end Descriptor

end ClassAtlas
