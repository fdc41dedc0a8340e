import ClassAtlas.ClassFile.Decode
import ClassAtlas.Proofs.Attempts
import ClassAtlas.Proofs.Bytes.Cuts
import ClassAtlas.Proofs.Module.File

/-!
# Stored class files

The layout of class files holds for classes as it does for modules. A class is
read off such a file by following numbers into the pool: those of texts, and
those of class constants that lead on to texts.
-/

namespace ClassAtlas

open Text (Utf8.encode)

/-! ## Texts -/

namespace Text

theorem Utf8.decode?_encode (text : String) : Utf8.decode? (Utf8.encode text) = some text := by
  have hscan : Utf8.scan none (Utf8.encode text) = text.toList.map some :=
    Utf8.scan_eq_map_some_iff.mpr rfl
  have hread (cs : List Char) : (cs.map some).mapM id = some cs := by
    induction cs with
    | nil => rfl
    | cons c cs ih =>
      rw [List.map_cons, List.mapM_cons, ih]
      rfl
  rw [Utf8.decode?, hscan, hread, Option.map_some, String.ofList_toList]

theorem ModifiedUtf8.decode?_encode (text : String) :
    ModifiedUtf8.decode? (Utf8.encode text) = some text := by
  rw [ModifiedUtf8.decode?, Utf8.decode?_encode]

end Text

/-! ## Readers at the end -/

namespace Reader

variable {ε α β : Type}

/-- The reader makes `a` of the bytes, provided that nothing follows. -/
def Finishes (reader : Reader ε α) (bytes : Bytes) (a : α) : Prop :=
  ∀ position, ∃ c, reader ⟨position, bytes⟩ = .ok (a, c)

theorem Reads.bind_finishes {reader : Reader ε α} {next : α → Reader ε β} {first second : Bytes}
    {a : α} {b : β} (hfirst : Reads reader first a) (hsecond : Finishes (next a) second b) :
    Finishes (reader >>= next) (first ++ second) b := by
  intro position
  obtain ⟨c, hc⟩ := hsecond (position + first.length)
  exact ⟨c, by rw [bind_of_ok (hfirst position second), hc]⟩

theorem Finishes.runOn {reader : Reader ε α} {bytes : Bytes} {a : α} (h : Finishes reader bytes a) :
    reader.runOn bytes = .ok a := by
  obtain ⟨c, hc⟩ := h 0
  rw [Reader.runOn, Cursor.ofBytes, hc]

theorem Reads.list_nil [Truncation ε] (item : Reader ε β) :
    Reads (Reader.list item) (stored 2 0) [] :=
  (nat (by decide)).last rfl

end Reader

/-- A text that class files can be read with. -/
def StoredConstant.Legible (c : StoredConstant) : Prop :=
  ∀ bytes fits, c = .text bytes fits → (Text.ModifiedUtf8.decode? bytes).isSome

namespace ClassFile

open Reader

/-! ## Structure -/

/-- What class files take the bytes of a text for. -/
def spelled (bytes : Bytes) : String :=
  (Text.ModifiedUtf8.decode? bytes).getD ""

/-- The pool as class files read it. -/
def keptPool (pool : StoredPool) : ConstantPool :=
  pool.kept spelled

theorem decodeText_of_isSome {bytes : Bytes} (h : (Text.ModifiedUtf8.decode? bytes).isSome) :
    decodeText bytes = .ok (spelled bytes) := by
  obtain ⟨text, htext⟩ := Option.isSome_iff_exists.mp h
  rw [decodeText, spelled, htext, Option.getD_some]

/-- However deep structures may nest at most, the attribute is read and this is kept of it. -/
def ReadsAs (pool : StoredPool) (a : StoredAttribute) (kept : Attribute) : Prop :=
  ∀ fuel, Reads (readAttribute (keptPool pool) (fuel + 1)) a.bytes kept

/-- The attributes of a member are read, and none of them is kept. -/
def IsReadable (pool : StoredPool) (m : StoredMember) : Prop :=
  ∃ attributes, List.Forall₂ (ReadsAs pool) m.attributes.rows attributes

def memberInfo (m : StoredMember) : MemberInfo :=
  ⟨m.flags, m.name.toNat, m.descriptor.toNat⟩

variable {pool : StoredPool}

theorem reads_member {m : StoredMember} (h : IsReadable pool m) (fuel : Nat) :
    Reads (member (readAttribute (keptPool pool) (fuel + 1))) m.bytes (memberInfo m) := by
  obtain ⟨attributes, hattributes⟩ := h
  rw [StoredMember.bytes, List.append_assoc, List.append_assoc]
  refine (Reads.flags m.flags).bind ((Reads.u16 m.name).bind ((Reads.u16 m.descriptor).bind ?_))
  exact (Reads.list (hattributes.imp fun _ _ ha => ha fuel)).last rfl

theorem reads_members {t : Table StoredMember} (h : ∀ m ∈ t.rows, IsReadable pool m) (fuel : Nat) :
    Reads (Reader.list (member (readAttribute (keptPool pool) (fuel + 1))))
      (t.bytes StoredMember.bytes) (t.rows.map memberInfo) := by
  apply Reads.list
  rw [List.forall₂_map_right_iff, List.forall₂_same]
  exact fun m hm => reads_member (h m hm) fuel

/-- The numbers that lead into the pool. -/
theorem reads_numbers (t : Table UInt16) :
    Reads (Reader.list u16 : Read (List Nat)) (t.bytes word) (t.rows.map UInt16.toNat) := by
  apply Reads.list
  rw [List.forall₂_map_right_iff, List.forall₂_same]
  exact fun w _ => Reads.u16 w

/-- The structure that is read from a stored file with these attributes. -/
def structureOf (file : StoredFile) (attributes : List Attribute) : ClassFile where
  pool := keptPool file.pool
  flags := file.flags
  thisClass := file.thisClass.toNat
  superClass := file.superClass.toNat
  interfaces := file.interfaces.rows.map UInt16.toNat
  fields := file.fields.rows.map memberInfo
  methods := file.methods.rows.map memberInfo
  attributes := attributes

theorem parse_stored {file : StoredFile} {attributes : List Attribute}
    (htexts : ∀ c ∈ file.pool.constants, c.Legible)
    (hfields : ∀ m ∈ file.fields.rows, IsReadable file.pool m)
    (hmethods : ∀ m ∈ file.methods.rows, IsReadable file.pool m)
    (hattributes : List.Forall₂ (ReadsAs file.pool) file.attributes.rows attributes) :
    parse file.bytes = .ok (structureOf file attributes) := by
  apply Finishes.runOn
  generalize file.bytes.length = fuel
  -- The two version numbers are passed over together.
  have hgroups : file.bytes = [0xCA, 0xFE, 0xBA, 0xBE] ++ ((word file.minor ++ word file.major) ++
      (file.pool.bytes ++ (word file.flags ++ (word file.thisClass ++ (word file.superClass ++
        (file.interfaces.bytes word ++ (file.fields.bytes StoredMember.bytes ++
          (file.methods.bytes StoredMember.bytes ++
            (file.attributes.bytes StoredAttribute.bytes ++ []))))))))) := by
    simp [StoredFile.bytes, StoredFile.head]
  rw [hgroups]
  refine reads_magic.bind_finishes ?_
  dsimp only
  rw [if_neg (not_not_intro rfl)]
  refine (Reads.skip (by simp)).bind_finishes ?_
  refine (file.pool.reads_read fun bytes fits h =>
    decodeText_of_isSome (htexts _ h bytes fits rfl)).bind_finishes ?_
  refine (Reads.flags file.flags).bind_finishes ((Reads.u16 file.thisClass).bind_finishes ?_)
  refine (Reads.u16 file.superClass).bind_finishes ((reads_numbers _).bind_finishes ?_)
  refine (reads_members hfields fuel).bind_finishes ?_
  refine (reads_members hmethods fuel).bind_finishes ?_
  refine (Reads.list (hattributes.imp fun _ _ ha => ha fuel)).bind_finishes ?_
  intro position
  exact ⟨_, rfl⟩

/-! ## Annotations -/

/-- The body of an attribute with annotations that have no elements. -/
def annotationsBody (types : Table UInt16) : Bytes :=
  types.bytes fun type => word type ++ stored 2 0

theorem reads_annotations (types : Table UInt16) (fuel : Nat) :
    Reads (annotations fuel) (annotationsBody types) (types.rows.map UInt16.toNat) := by
  apply Reads.list
  rw [List.forall₂_map_right_iff, List.forall₂_same]
  exact fun type _ => (Reads.u16 type).bind ((Reads.list_nil _).last rfl)

/-- The name of the attribute with the annotations that are there at run time. -/
def visibleAnnotations : String := "RuntimeVisibleAnnotations"

theorem attributeBody_visibleAnnotations (nested : Read Attribute) (fuel length : Nat) :
    attributeBody nested fuel visibleAnnotations length = (do
      checkLength length
      return .annotations (← annotations fuel)) :=
  rfl

theorem reads_visibleAnnotations {body : Bytes} {types : List Nat} {fuel : Nat}
    (h : Reads (annotations fuel) body types) (nested : Read Attribute) :
    Reads (attributeBody nested fuel visibleAnnotations body.length) body
      (.annotations types) := by
  have hbody : Reads (annotations fuel >>= fun types => pure (Attribute.annotations types)) body
      (.annotations types) := h.last rfl
  intro position rest
  have hroom : ¬ (body ++ rest).length < body.length := by simp
  have hlength : checkLength body.length ⟨position, body ++ rest⟩ =
      .ok ((), ⟨position, body ++ rest⟩) := by
    have hleft : (remaining : Read Nat) ⟨position, body ++ rest⟩ =
        .ok ((body ++ rest).length, ⟨position, body ++ rest⟩) := rfl
    rw [checkLength, bind_of_ok hleft, if_neg hroom]
    rfl
  rw [attributeBody_visibleAnnotations, bind_of_ok hlength]
  exact hbody position rest

theorem readsAs_visibleAnnotations {a : StoredAttribute} {t : Table UInt16}
    (hname : pool.HasText a.name visibleAnnotations) (hbody : a.body = annotationsBody t) :
    ReadsAs pool a (.annotations (t.rows.map UInt16.toNat)) := by
  intro fuel
  obtain ⟨fits, hname⟩ := hname
  have htext : (keptPool pool).text? a.name.toNat = some visibleAnnotations := by
    rw [keptPool, StoredPool.text?_kept hname, spelled, Text.ModifiedUtf8.decode?_encode,
      Option.getD_some]
  have hannotations := reads_annotations t (fuel + 1)
  rw [← hbody] at hannotations
  refine (Reads.u16 a.name).bind ?_
  rw [htext]
  exact (Reads.nat a.fits).bind (reads_visibleAnnotations hannotations _)

/-! ## Formats -/

/-- The attribute holds annotations, and this is kept of it. -/
inductive Keeps (pool : StoredPool) : StoredAttribute → Attribute → Prop where
  | annotations {a : StoredAttribute} {types : Table UInt16}
      (hname : pool.HasText a.name visibleAnnotations) (hbody : a.body = annotationsBody types) :
      Keeps pool a (.annotations (types.rows.map UInt16.toNat))

/-- The formats know the layout of class files: where all texts are legible and there are no
attributes but annotations of the class, what is stored is read. -/
structure Known [Formats] : Prop where
  stored : ∀ {file : StoredFile} {attributes : List Attribute},
    (∀ c ∈ file.pool.constants, c.Legible) →
    (∀ m ∈ file.fields.rows, m.attributes.rows = []) →
    (∀ m ∈ file.methods.rows, m.attributes.rows = []) →
    List.Forall₂ (Keeps file.pool) file.attributes.rows attributes →
    Formats.classFile file.bytes = .ok (structureOf file attributes)

theorem isReadable_of_attributes_eq_nil {m : StoredMember} (h : m.attributes.rows = []) :
    IsReadable pool m :=
  ⟨[], h ▸ .nil⟩

theorem known_standard : @Known .standard where
  stored := by
    intro file attributes htexts hfields hmethods hattributes
    apply parse_stored htexts
    · exact fun m hm => isReadable_of_attributes_eq_nil (hfields m hm)
    · exact fun m hm => isReadable_of_attributes_eq_nil (hmethods m hm)
    · refine hattributes.imp fun a kept hkept => ?_
      cases hkept with
      | annotations hname hbody => exact readsAs_visibleAnnotations hname hbody

/-! ## Meaning -/

/-- The number leads to the name of the class. -/
def SpellsClass (pool : StoredPool) (index : UInt16) (c : ClassName) : Prop :=
  ∃ name, pool.Spells .classRef index name ∧ c = .ofInternal name

structure DescribesField [Formats] (pool : StoredPool) (m : StoredMember) (f : Field) : Prop where
  name : pool.HasText m.name f.name
  type : ∃ text, pool.HasText m.descriptor text ∧ Descriptor.readField text = .ok f.type
  modifiers : f.modifiers = .ofFlags .field m.flags

structure DescribesMethod [Formats] (pool : StoredPool) (m : StoredMember) (f : Method) : Prop where
  name : pool.HasText m.name f.name
  types : ∃ text, pool.HasText m.descriptor text ∧
    Descriptor.readMethod text = .ok (f.params, f.result)
  modifiers : f.modifiers = .ofFlags .method m.flags

/-- The number leads to the descriptor of the annotation's type. -/
def AnnotatesBy [Formats] (pool : StoredPool) (index : UInt16) (a : Annotation) : Prop :=
  ∃ text, pool.HasText index text ∧ Descriptor.readField text = .ok (.named a.type)

/-- The file with these attributes holds the declaration. -/
structure Describes [Formats] (file : StoredFile) (attributes : List Attribute) (d : ClassDecl) :
    Prop where
  name : SpellsClass file.pool file.thisClass d.name
  modifiers : d.modifiers = .ofFlags .classFlags file.flags
  position : d.position = none
  superclass : file.superClass = 0 ∧ d.superclass = none ∨
    file.superClass ≠ 0 ∧ ∃ c, d.superclass = some c ∧ SpellsClass file.pool file.superClass c
  interfaces : List.Forall₂ (SpellsClass file.pool) file.interfaces.rows d.interfaces
  fields : List.Forall₂ (DescribesField file.pool) file.fields.rows d.fields
  methods : List.Forall₂ (DescribesMethod file.pool) file.methods.rows d.methods
  annotations : ∃ types : List UInt16,
    (structureOf file attributes).annotationTypes = types.map UInt16.toNat ∧
    List.Forall₂ (AnnotatesBy file.pool) types d.annotations

section

variable {origin : String} {index : UInt16}

theorem text_of_hasText {value : String} (h : pool.HasText index value) :
    text (keptPool pool) origin index.toNat = .ok value := by
  obtain ⟨fits, h⟩ := h
  rw [text, keptPool, StoredPool.text?_kept h, spelled, Text.ModifiedUtf8.decode?_encode,
    Option.getD_some]

theorem className_of_spellsClass {c : ClassName} (h : SpellsClass pool index c) :
    className (keptPool pool) origin index.toNat = .ok c := by
  obtain ⟨name, ⟨nameIndex, hindex, hname⟩, rfl⟩ := h
  have hnumber : (keptPool pool).nameIndex? PoolEntry.classTag index.toNat =
      some nameIndex.toNat := by
    simp [ConstantPool.nameIndex?, keptPool, StoredPool.entries_kept hindex, StoredConstant.entry,
      PoolEntry.classTag]
  rw [className, hnumber]
  simp only [text_of_hasText hname]
  rfl

variable [Formats]

theorem field_of_describes {m : StoredMember} {f : Field} (h : DescribesField pool m f) :
    field (keptPool pool) origin (memberInfo m) = .ok f := by
  obtain ⟨text, htext, htype⟩ := h.type
  refine bind_eq_ok_iff.mpr ⟨_, text_of_hasText h.name, ?_⟩
  refine bind_eq_ok_iff.mpr ⟨_, text_of_hasText htext, ?_⟩
  refine bind_eq_ok_iff.mpr ⟨f.type, by rw [fieldType, htype]; rfl, ?_⟩
  rw [memberInfo, ← h.modifiers]
  rfl

theorem method_of_describes {m : StoredMember} {f : Method} (h : DescribesMethod pool m f) :
    method (keptPool pool) origin (memberInfo m) = .ok f := by
  obtain ⟨text, htext, htypes⟩ := h.types
  refine bind_eq_ok_iff.mpr ⟨_, text_of_hasText h.name, ?_⟩
  refine bind_eq_ok_iff.mpr ⟨_, text_of_hasText htext, ?_⟩
  refine bind_eq_ok_iff.mpr ⟨(f.params, f.result), by rw [methodType, htypes]; rfl, ?_⟩
  rw [memberInfo, ← h.modifiers]
  rfl

theorem annotationOf_of_describes {a : Annotation} (h : AnnotatesBy pool index a) :
    annotationOf (keptPool pool) origin index.toNat = .ok a := by
  obtain ⟨text, htext, htype⟩ := h
  refine bind_eq_ok_iff.mpr ⟨_, text_of_hasText htext, ?_⟩
  exact bind_eq_ok_iff.mpr ⟨.named a.type, by rw [fieldType, htype]; rfl, rfl⟩

theorem superclass_of_describes {file : StoredFile} {attributes : List Attribute} {d : ClassDecl}
    (h : Describes file attributes d) :
    superclass (keptPool file.pool) origin file.superClass.toNat = .ok d.superclass := by
  unfold superclass
  obtain ⟨hzero, hnone⟩ | ⟨hne, c, hsome, hc⟩ := h.superclass
  · rw [hzero, hnone]
    rfl
  · have hnumber : file.superClass.toNat ≠ 0 := fun hzero => hne (UInt16.toNat_inj.mp hzero)
    rw [if_neg hnumber, className_of_spellsClass hc, hsome]
    rfl

theorem members_full {pool : ConstantPool} {c : ClassFile} :
    members pool origin .full c = (do
      let fields ← c.fields.mapM (field pool origin)
      let methods ← c.methods.mapM (method pool origin)
      return (fields, methods)) := by
  have hwanted : LoadOptions.full.members = true := rfl
  rw [members, if_pos hwanted]
  refine bind_congr fun fields => bind_congr fun methods => ?_
  simp [LoadOptions.keeps, LoadOptions.full]

theorem members_of_describes {file : StoredFile} {attributes : List Attribute} {d : ClassDecl}
    (h : Describes file attributes d) :
    members (keptPool file.pool) origin .full (structureOf file attributes) =
      .ok (d.fields, d.methods) := by
  have hfields : (file.fields.rows.map memberInfo).mapM (field (keptPool file.pool) origin) =
      .ok d.fields := by
    apply mapM_eq_ok_of_forall₂
    rw [List.forall₂_map_left_iff]
    exact h.fields.imp fun _ _ => field_of_describes
  have hmethods : (file.methods.rows.map memberInfo).mapM (method (keptPool file.pool) origin) =
      .ok d.methods := by
    apply mapM_eq_ok_of_forall₂
    rw [List.forall₂_map_left_iff]
    exact h.methods.imp fun _ _ => method_of_describes
  rw [members_full]
  exact bind_eq_ok_iff.mpr ⟨_, hfields, bind_eq_ok_iff.mpr ⟨_, hmethods, rfl⟩⟩

theorem declaration_of_describes {file : StoredFile} {attributes : List Attribute} {d : ClassDecl}
    (h : Describes file attributes d) :
    declaration origin .full (structureOf file attributes) = .ok d := by
  have hinterfaces : (file.interfaces.rows.map UInt16.toNat).mapM
      (className (keptPool file.pool) origin) = .ok d.interfaces := by
    apply mapM_eq_ok_of_forall₂
    rw [List.forall₂_map_left_iff]
    exact h.interfaces.imp fun _ _ => className_of_spellsClass
  have hannotations : (structureOf file attributes).annotationTypes.mapM
      (annotationOf (keptPool file.pool) origin) = .ok d.annotations := by
    obtain ⟨types, htypes, hall⟩ := h.annotations
    rw [htypes]
    apply mapM_eq_ok_of_forall₂
    rw [List.forall₂_map_left_iff]
    exact hall.imp fun _ _ => annotationOf_of_describes
  refine bind_eq_ok_iff.mpr ⟨_, className_of_spellsClass h.name, ?_⟩
  refine bind_eq_ok_iff.mpr ⟨_, superclass_of_describes h, ?_⟩
  refine bind_eq_ok_iff.mpr ⟨_, hinterfaces, bind_eq_ok_iff.mpr ⟨_, members_of_describes h, ?_⟩⟩
  refine bind_eq_ok_iff.mpr ⟨_, hannotations, ?_⟩
  rw [structureOf, ← h.modifiers, ← h.position]
  rfl

end

end ClassFile

end ClassAtlas
