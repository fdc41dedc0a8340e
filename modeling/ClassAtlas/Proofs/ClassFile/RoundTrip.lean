import ClassAtlas.Proofs.ClassFile.Assembly

/-!
# Decoding assembled class files

An outline stands for a declaration if writing the declaration's names and
types gives its texts. A proper outline stands for one declaration and no
other, and that one is decoded from the assembled file.
-/

namespace ClassAtlas

section

variable {α β γ : Type} {l : List α} {as : List β} {bs : List γ}

theorem exists_forall₂ {R : α → β → Prop} (h : ∀ a ∈ l, ∃ b, R a b) :
    ∃ as, List.Forall₂ R l as := by
  induction l with
  | nil => exact ⟨[], .nil⟩
  | cons a l ih =>
    obtain ⟨b, hb⟩ := h a List.mem_cons_self
    obtain ⟨bs, hbs⟩ := ih fun x hx => h x (List.mem_cons_of_mem a hx)
    exact ⟨b :: bs, .cons hb hbs⟩

theorem forall₂_of_common {R : α → β → Prop} {S : α → γ → Prop} {T : β → γ → Prop}
    (hR : List.Forall₂ R l as) (hS : List.Forall₂ S l bs) (h : ∀ x a b, R x a → S x b → T a b) :
    List.Forall₂ T as bs := by
  induction hR generalizing bs with
  | nil =>
    cases hS
    exact .nil
  | cons ha _ ih =>
    cases hS with
    | cons hb hbs => exact .cons (h _ _ _ ha hb) (ih hbs)

end

/-! ## What outlines stand for -/

/-- Whether the name is made of identifiers with slashes between them. -/
def Text.isSlashedIdentifier (name : String) : Bool :=
  (Text.split '/' name.toList).all Text.isIdentifier

/-- A proper name that class files spell like this. -/
structure ClassName.IsWritten (c : ClassName) (name : String) : Prop where
  proper : Descriptor.IsProper (.named c)
  internal : c.internal = name

theorem ClassName.IsWritten.eq_ofInternal {c : ClassName} {name : String} (h : c.IsWritten name) :
    c = ofInternal name := by
  rw [← h.internal, Descriptor.ofInternal_of_isProper h.proper]

theorem ClassName.isWritten_ofInternal {name : String}
    (h : Text.isSlashedIdentifier name = true) : (ofInternal name).IsWritten name := by
  have hdot : '.' ∉ name.toList := by
    have hslash : '.' ≠ '/' := by decide
    refine Text.not_mem_of_forall_split hslash fun segment hsegment hmem => ?_
    have hpart := Descriptor.isIdentifierPart_of_mem (List.all_eq_true.mp h segment hsegment) hmem
    have hno : Text.isIdentifierPart '.' = false := by decide +kernel
    rw [hno] at hpart
    cases hpart
  have hdotted : Text.isDottedIdentifier (Text.exchange '/' '.' name) = true := by
    rw [Text.isDottedIdentifier, Text.exchange, String.toList_ofList, Text.split_exchanged hdot,
      ← Text.isSlashedIdentifier, h]
  have hname : (ofInternal name).dotted = Text.exchange '/' '.' name :=
    (isCalled_ofDotted hdotted).dotted
  refine ⟨⟨.internal name, by rw [hname]; exact hdotted⟩, ?_⟩
  rw [ClassName.internal, hname, Text.exchange, Text.exchange]
  apply String.toList_inj.mp
  rw [String.toList_ofList, String.toList_ofList, List.map_map]
  refine (List.map_congr_left fun x hx => ?_).trans (List.map_id _)
  have hne : x ≠ '.' := fun heq => hdot (heq ▸ hx)
  by_cases hslash : x = '/' <;> simp [hslash, hne]

namespace Descriptor

/-- The text is the descriptor of a type that values have. -/
structure IsField (text : String) (t : JavaType) : Prop where
  writable : Writable t
  written : write? t = some text.toList

/-- The text is the descriptor of a method with these types. -/
structure IsMethod (text : String) (params : List JavaType) (result : JavaType) : Prop where
  values : ∀ t ∈ params, Writable t
  value : Writable result ∨ result = .void
  written : ∃ ds d, params.mapM write? = some ds ∧ write? result = some d ∧
    text.toList = '(' :: ds.flatten ++ ')' :: d

variable [Formats] {text : String}

theorem IsField.readField (hknown : Known) {t : JavaType} (h : IsField text t) :
    readField text = .ok t := by
  obtain ⟨d, hd, hread⟩ := h.writable.exists_readField hknown
  obtain rfl : text.toList = d := Option.some.inj (h.written.symm.trans hd)
  rwa [String.ofList_toList] at hread

theorem IsMethod.readMethod (hknown : Known) {params : List JavaType} {result : JavaType}
    (h : IsMethod text params result) : readMethod text = .ok (params, result) := by
  obtain ⟨ds, d, hds, hd, htext⟩ := h.written
  obtain ⟨ds', d', hds', hd', hread⟩ := exists_readMethod hknown h.values h.value
  obtain rfl : ds = ds' := Option.some.inj (hds.symm.trans hds')
  obtain rfl : d = d' := Option.some.inj (hd.symm.trans hd')
  rwa [← htext, String.ofList_toList] at hread

end Descriptor

structure MemberOutline.IsField (m : MemberOutline) (f : Field) : Prop where
  name : f.name = m.name.text
  type : Descriptor.IsField m.descriptor.text f.type
  modifiers : f.modifiers.AreSet .field m.flags

structure MemberOutline.IsMethod (m : MemberOutline) (f : Method) : Prop where
  name : f.name = m.name.text
  types : Descriptor.IsMethod m.descriptor.text f.params f.result
  modifiers : f.modifiers.AreSet .method m.flags

namespace ClassOutline

/-- The class that is outlined. -/
structure IsClass (o : ClassOutline) (d : ClassDecl) : Prop where
  name : d.name.IsWritten o.name.text
  modifiers : d.modifiers.AreSet .classFlags o.flags
  position : d.position = none
  superclass : Option.Rel (fun t (c : ClassName) => c.IsWritten t.text) o.superName d.superclass
  interfaces : List.Forall₂ (fun t (c : ClassName) => c.IsWritten t.text) o.interfaces d.interfaces
  fields : List.Forall₂ MemberOutline.IsField o.fields d.fields
  methods : List.Forall₂ MemberOutline.IsMethod o.methods d.methods
  annotations : List.Forall₂ (fun t a => Descriptor.IsField t.text (.named a.type))
    o.annotations d.annotations

/-- The names are made of identifiers, and the descriptors are those of types. -/
structure Proper (o : ClassOutline) : Prop where
  name : Text.isSlashedIdentifier o.name.text = true
  superName : ∀ t ∈ o.superName, Text.isSlashedIdentifier t.text = true
  interfaces : ∀ t ∈ o.interfaces, Text.isSlashedIdentifier t.text = true
  fields : ∀ m ∈ o.fields, ∃ type, Descriptor.IsField m.descriptor.text type
  methods : ∀ m ∈ o.methods, ∃ params result, Descriptor.IsMethod m.descriptor.text params result
  annotations : ∀ t ∈ o.annotations, ∃ c, Descriptor.IsField t.text (.named c)

theorem Proper.exists_isClass {o : ClassOutline} (h : o.Proper) : ∃ d, o.IsClass d := by
  have hsuperclass : ∃ superclass : Option ClassName,
      Option.Rel (fun t c => c.IsWritten t.text) o.superName superclass := by
    have hnames := h.superName
    cases hsuper : o.superName with
    | none => exact ⟨none, .none⟩
    | some t => exact ⟨some _, .some (ClassName.isWritten_ofInternal (hnames t hsuper))⟩
  obtain ⟨superclass, hsuperclass⟩ := hsuperclass
  have hinterface (t : ShortText) (ht : t ∈ o.interfaces) : ∃ c : ClassName, c.IsWritten t.text :=
    ⟨_, ClassName.isWritten_ofInternal (h.interfaces t ht)⟩
  have hfield (m : MemberOutline) (hm : m ∈ o.fields) : ∃ f, m.IsField f := by
    obtain ⟨type, htype⟩ := h.fields m hm
    exact ⟨⟨m.name.text, type, .ofFlags .field m.flags⟩, rfl, htype, Modifiers.areSet_ofFlags _ _⟩
  have hmethod (m : MemberOutline) (hm : m ∈ o.methods) : ∃ f, m.IsMethod f := by
    obtain ⟨params, result, htypes⟩ := h.methods m hm
    exact ⟨⟨m.name.text, params, result, .ofFlags .method m.flags⟩, rfl, htypes,
      Modifiers.areSet_ofFlags _ _⟩
  obtain ⟨interfaces, hinterfaces⟩ := exists_forall₂ hinterface
  obtain ⟨fields, hfields⟩ := exists_forall₂ hfield
  obtain ⟨methods, hmethods⟩ := exists_forall₂ hmethod
  have hannotation (t : ShortText) (ht : t ∈ o.annotations) :
      ∃ a : Annotation, Descriptor.IsField t.text (.named a.type) := by
    obtain ⟨c, hc⟩ := h.annotations t ht
    exact ⟨⟨c⟩, hc⟩
  obtain ⟨annotations, hannotations⟩ := exists_forall₂ hannotation
  obtain ⟨name, hname⟩ : ∃ c : ClassName, c.IsWritten o.name.text :=
    ⟨_, ClassName.isWritten_ofInternal h.name⟩
  exact ⟨⟨name, .ofFlags .classFlags o.flags, none, superclass, interfaces, fields, methods,
    annotations⟩, hname, Modifiers.areSet_ofFlags _ _, rfl, hsuperclass, hinterfaces, hfields,
    hmethods, hannotations⟩

/-! ## Decoding -/

open Assembler

theorem spellsClass_of_isWritten {pool : StoredPool} {index : UInt16} {name : String}
    {c : ClassName} (hindex : pool.Spells .classRef index name) (hc : c.IsWritten name) :
    ClassFile.SpellsClass pool index c :=
  ⟨name, hindex, hc.eq_ofInternal⟩

theorem superclass_of_rel {pool : StoredPool} {index : UInt16} {superName : Option ShortText}
    {superclass : Option ClassName} (hindex : SpellsSuperclass superName pool index)
    (hrel : Option.Rel (fun t (c : ClassName) => c.IsWritten t.text) superName superclass) :
    index = 0 ∧ superclass = none ∨
      index ≠ 0 ∧ ∃ c, superclass = some c ∧ ClassFile.SpellsClass pool index c := by
  cases hrel with
  | none =>
    obtain ⟨-, hzero⟩ | ⟨t, hsome, -⟩ := hindex
    · exact .inl ⟨hzero, rfl⟩
    · cases hsome
  | some hc =>
    obtain ⟨hnone, -⟩ | ⟨t, hsome, hspells⟩ := hindex
    · cases hnone
    · cases hsome
      exact .inr ⟨StoredPool.ne_zero_of_spells hspells, _, rfl, spellsClass_of_isWritten hspells hc⟩

theorem describesField_of_isField [Formats] (hknown : Descriptor.Known) {pool : StoredPool}
    {m : MemberOutline} {s : StoredMember} {f : Field} (hs : SpellsMember pool m s)
    (hf : m.IsField f) :
    ClassFile.DescribesField pool s f where
  name := by rw [hf.name]; exact hs.name
  type := ⟨_, hs.descriptor, hf.type.readField hknown⟩
  modifiers := by rw [hs.flags]; exact Modifiers.areSet_iff.mp hf.modifiers

theorem describesMethod_of_isMethod [Formats] (hknown : Descriptor.Known) {pool : StoredPool}
    {m : MemberOutline} {s : StoredMember} {f : Method} (hs : SpellsMember pool m s)
    (hf : m.IsMethod f) :
    ClassFile.DescribesMethod pool s f where
  name := by rw [hf.name]; exact hs.name
  types := ⟨_, hs.descriptor, hf.types.readMethod hknown⟩
  modifiers := by rw [hs.flags]; exact Modifiers.areSet_iff.mp hf.modifiers

theorem attributes_eq_nil_of_spellsMember {pool : StoredPool} {ms : List MemberOutline}
    {ss : List StoredMember} (h : List.Forall₂ (SpellsMember pool) ms ss) :
    ∀ s ∈ ss, s.attributes.rows = [] := by
  induction h with
  | nil => simp
  | cons hs _ ih => exact List.forall_mem_cons.mpr ⟨hs.attributes, ih⟩

/-- The attributes of an assembled file are known, and the annotations are found in them. -/
theorem exists_attributes {pool : StoredPool} {annotations : List ShortText}
    {rows : List StoredAttribute} (hcount : annotations.length < UInt16.size)
    (h : SpellsAttributes annotations pool (rows.map attributeRow)) :
    ∃ attributes types, List.Forall₂ (ClassFile.Keeps pool) rows attributes ∧
      (∀ c : ClassFile, c.attributes = attributes →
        c.annotationTypes = types.map UInt16.toNat) ∧
      List.Forall₂ (fun t index => pool.HasText index t.text) annotations types := by
  obtain ⟨rfl, hrows⟩ | ⟨name, types, hrows, hname, htypes⟩ := h
  · rw [List.map_eq_nil_iff] at hrows
    subst hrows
    refine ⟨[], [], .nil, ?_, .nil⟩
    intro c hc
    rw [ClassFile.annotationTypes, hc]
    rfl
  · obtain ⟨a, rfl, ha⟩ := List.map_eq_singleton_iff.mp hrows
    obtain ⟨rfl, hbody⟩ := Prod.mk.inj ha
    rw [htypes.length_eq] at hcount
    let table : Table UInt16 := ⟨types, hcount⟩
    have hkept : ClassFile.Keeps pool a (.annotations (table.rows.map UInt16.toNat)) :=
      .annotations hname hbody
    refine ⟨_, types, .cons hkept .nil, ?_, htypes⟩
    intro c hc
    rw [ClassFile.annotationTypes, hc]
    exact List.append_nil _

/-- The file assembled from the outline of a class holds that class. -/
theorem IsClass.declared [Formats] (hfiles : ClassFile.Known) (hdescriptors : Descriptor.Known)
    {o : ClassOutline} {d : ClassDecl} (h : o.IsClass d) (hfits : o.Fits) (origin : String) :
    ClassFile.decode origin .full o.bytes = .ok d := by
  obtain ⟨file, hbytes, hflags, hlegible, hspells⟩ := exists_stored hfits
  obtain ⟨attributes, types, hkept, htypes, htexts⟩ :=
    exists_attributes hfits.lengths.2.2.2 hspells.attributes
  have hparse : Formats.classFile file.bytes = .ok (ClassFile.structureOf file attributes) :=
    hfiles.stored hlegible (attributes_eq_nil_of_spellsMember hspells.fields)
      (attributes_eq_nil_of_spellsMember hspells.methods) hkept
  have hdescribes : ClassFile.Describes file attributes d := {
    name := spellsClass_of_isWritten hspells.thisClass h.name
    modifiers := by rw [hflags]; exact Modifiers.areSet_iff.mp h.modifiers
    position := h.position
    superclass := superclass_of_rel hspells.superClass h.superclass
    interfaces := forall₂_of_common hspells.interfaces h.interfaces fun _ _ _ =>
      spellsClass_of_isWritten
    fields := forall₂_of_common hspells.fields h.fields fun _ _ _ =>
      describesField_of_isField hdescriptors
    methods := forall₂_of_common hspells.methods h.methods fun _ _ _ =>
      describesMethod_of_isMethod hdescriptors
    annotations := ⟨types, htypes _ rfl, forall₂_of_common htexts h.annotations
      fun t _ _ htext ha => ⟨t.text, htext, ha.readField hdescriptors⟩⟩ }
  rw [ClassFile.decode, ← hbytes]
  simp only [hparse]
  exact ClassFile.declaration_of_describes hdescribes

/-- Whatever class is outlined, formats that know class files and descriptors decode exactly this
class from the file that is assembled for it. -/
theorem decoding_inverts_assembly [Formats] (hfiles : ClassFile.Known)
    (hdescriptors : Descriptor.Known) {o : ClassOutline} (hproper : o.Proper) (hfits : o.Fits)
    (location : String) (path : Path) :
    ∃ d, Source.ofClassFile location path .full o.bytes = .ok (.standard ⟨location, path⟩ d) ∧
      ∀ e, o.IsClass e ↔ e = d := by
  obtain ⟨d, hd⟩ := hproper.exists_isClass
  have hdecode := hd.declared hfiles hdescriptors hfits path.text
  refine ⟨d, by rw [Source.ofClassFile, hdecode]; rfl, fun e => ⟨fun he => ?_, ?_⟩⟩
  · have hsame := he.declared hfiles hdescriptors hfits path.text
    exact Except.ok.inj (hsame.symm.trans hdecode)
  · rintro rfl
    exact hd

end ClassOutline

/-! ## An interface -/

namespace Service

def outline : ClassOutline where
  name := ⟨"com/example/Service", by decide +kernel⟩
  superName := some .object
  flags := 0x0601
  interfaces := [⟨"java/lang/Runnable", by decide +kernel⟩]
  fields := [⟨⟨"count", by decide +kernel⟩, ⟨"I", by decide +kernel⟩, 0x0042⟩,
    ⟨⟨"this$0", by decide +kernel⟩, ⟨"[Lcom/example/Outer;", by decide +kernel⟩, 0x1010⟩]
  methods := [⟨⟨"run", by decide +kernel⟩, ⟨"(Lcom/example/Outer;J)V", by decide +kernel⟩, 0x0041⟩,
    ⟨⟨"lambda$0", by decide +kernel⟩, ⟨"()Z", by decide +kernel⟩, 0x1108⟩]
  annotations := [⟨"Ljava/lang/FunctionalInterface;", by decide +kernel⟩]

def outer : ClassName := ⟨"com.example", "Outer"⟩

def functional : ClassName := ⟨"java.lang", "FunctionalInterface"⟩

def outers : JavaType := .array ⟨.named outer, 1⟩

def decl : ClassDecl where
  name := ⟨"com.example", "Service"⟩
  modifiers := .ofList [.publicAccess, .interface, .abstract]
  position := none
  superclass := some .object
  interfaces := [⟨"java.lang", "Runnable"⟩]
  fields := [⟨"count", .primitive .int, .ofList [.privateAccess, .volatile]⟩,
    ⟨"this$0", outers, .ofList [.final, .synthetic]⟩]
  methods := [⟨"run", [.named outer, .primitive .long], .void, .ofList [.publicAccess, .bridge]⟩,
    ⟨"lambda$0", [], .primitive .boolean, .ofList [.static, .native, .synthetic]⟩]
  annotations := [⟨functional⟩]

theorem fits : outline.Fits := by
  have hcount : outline.constantCount = 16 := rfl
  rw [ClassOutline.Fits, hcount]
  decide

theorem isWritten_of_eq {name : String} {c : ClassName} (h : Text.isSlashedIdentifier name = true)
    (hc : ClassName.ofInternal name = c) : c.IsWritten name :=
  hc ▸ ClassName.isWritten_ofInternal h

theorem isProper_outer : Descriptor.IsProper (.named outer) := by
  have hname : outer.IsWritten "com/example/Outer" :=
    isWritten_of_eq (by decide +kernel) (by decide +kernel)
  exact hname.proper

theorem isField_outers : Descriptor.IsField "[Lcom/example/Outer;" outers :=
  ⟨.array isProper_outer (by decide) (by decide), by decide +kernel⟩

theorem isField_primitive (p : Primitive) :
    Descriptor.IsField (String.ofList [Descriptor.letter p]) (.primitive p) := by
  refine ⟨@Descriptor.Writable.base (.primitive p) trivial, ?_⟩
  simp [Descriptor.write?, Descriptor.writeBase]

theorem isField_functional :
    Descriptor.IsField "Ljava/lang/FunctionalInterface;" (.named functional) := by
  have hname : functional.IsWritten "java/lang/FunctionalInterface" :=
    isWritten_of_eq (by decide +kernel) (by decide +kernel)
  exact ⟨.base hname.proper, by decide +kernel⟩

theorem isMethod_run :
    Descriptor.IsMethod "(Lcom/example/Outer;J)V" [.named outer, .primitive .long] .void where
  values := by
    simp only [List.forall_mem_cons]
    exact ⟨.base isProper_outer, @Descriptor.Writable.base (.primitive .long) trivial, by simp⟩
  value := .inr rfl
  written := ⟨["Lcom/example/Outer;".toList, ['J']], ['V'], by decide +kernel, rfl,
    by decide +kernel⟩

theorem isMethod_lambda : Descriptor.IsMethod "()Z" [] (.primitive .boolean) where
  values := by simp
  value := .inl (@Descriptor.Writable.base (.primitive .boolean) trivial)
  written := ⟨[], ['Z'], rfl, rfl, by decide +kernel⟩

theorem isClass : outline.IsClass decl where
  name := isWritten_of_eq (by decide +kernel) (by decide +kernel)
  modifiers := Modifiers.areSet_iff.mpr (by decide)
  position := rfl
  superclass := .some (isWritten_of_eq (by decide +kernel) (by decide +kernel))
  interfaces := .cons (isWritten_of_eq (by decide +kernel) (by decide +kernel)) .nil
  fields := .cons ⟨rfl, isField_primitive .int, Modifiers.areSet_iff.mpr (by decide)⟩
    (.cons ⟨rfl, isField_outers, Modifiers.areSet_iff.mpr (by decide)⟩ .nil)
  methods := .cons ⟨rfl, isMethod_run, Modifiers.areSet_iff.mpr (by decide)⟩
    (.cons ⟨rfl, isMethod_lambda, Modifiers.areSet_iff.mpr (by decide)⟩ .nil)
  annotations := .cons isField_functional .nil

theorem proper : outline.Proper where
  name := by decide +kernel
  superName := by decide +kernel
  interfaces := by decide +kernel
  fields := by
    simp only [outline, List.forall_mem_cons]
    exact ⟨⟨_, isField_primitive .int⟩, ⟨_, isField_outers⟩, by simp⟩
  methods := by
    simp only [outline, List.forall_mem_cons]
    exact ⟨⟨_, _, isMethod_run⟩, ⟨_, _, isMethod_lambda⟩, by simp⟩
  annotations := by
    simp only [outline, List.forall_mem_cons]
    exact ⟨⟨_, isField_functional⟩, by simp⟩

end Service

namespace ClassOutline

/-- Members that a compiler made up among the others, and a bit that means one thing on a method and
another on a field. -/
theorem decoding_inverts_assembly_service :
    Service.outline.Proper ∧ Service.outline.Fits ∧
    Source.ofClassFile "lib" ⟨"Service.class"⟩ .full Service.outline.bytes =
      .ok (.standard ⟨"lib", ⟨"Service.class"⟩⟩ Service.decl) := by
  obtain ⟨d, hd, hunique⟩ :=
    decoding_inverts_assembly ClassFile.known_standard Descriptor.known_standard Service.proper
      Service.fits "lib" ⟨"Service.class"⟩
  obtain rfl : Service.decl = d := (hunique _).mp Service.isClass
  exact ⟨Service.proper, Service.fits, hd⟩

end ClassOutline

end ClassAtlas
