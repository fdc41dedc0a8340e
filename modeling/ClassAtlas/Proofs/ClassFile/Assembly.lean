import ClassAtlas.Source
import ClassAtlas.Proofs.ClassFile.Stored
import ClassAtlas.Proofs.Names.Descriptors

/-!
# Assembled class files

A class file is assembled from an outline of the class by appending the names
and descriptors to the pool, in the order in which they turn up, and noting
their numbers. No number changes its meaning when the pool grows, so all of
them lead to the right texts in the end, and decoding gives the class that was
outlined.
-/

namespace ClassAtlas

open Text (Utf8.encode)

/-! ## Outlines -/

/-- A text that fits into a constant. -/
structure ShortText where
  text : String
  fits : (Utf8.encode text).length < UInt16.size

/-- The name of the class that all classes extend. -/
def ShortText.object : ShortText :=
  ⟨"java/lang/Object", by decide +kernel⟩

/-- A class in no package. -/
def ShortText.classA : ShortText :=
  ⟨"A", by decide +kernel⟩

/-- Its namesake in a package. -/
def ShortText.classPA : ShortText :=
  ⟨"p/A", by decide +kernel⟩

/-- Another class in that package. -/
def ShortText.classPB : ShortText :=
  ⟨"p/B", by decide +kernel⟩

/-- A field or method as class files spell it. -/
structure MemberOutline where
  name : ShortText
  descriptor : ShortText
  flags : UInt16

/-- A class as class files spell it. -/
structure ClassOutline where
  name : ShortText
  superName : Option ShortText
  flags : UInt16
  interfaces : List ShortText
  fields : List MemberOutline
  methods : List MemberOutline
  annotations : List ShortText

/-! ## Assembly -/

/-- Rows with their count in front. -/
def counted {α : Type} (row : α → Bytes) (rows : List α) : Bytes :=
  stored 2 rows.length ++ rows.flatMap row

theorem length_nil_lt {α : Type} : ([] : List α).length < UInt16.size := by
  rw [List.length_nil]
  decide

def Table.empty {α : Type} : Table α :=
  ⟨[], length_nil_lt⟩

/-- Appends constants to a pool. -/
abbrev Assembler := StateM (List StoredConstant)

namespace Assembler

/-- The new constant has the first number that is free. -/
def constant (c : StoredConstant) : Assembler UInt16 := fun pool =>
  (UInt16.ofNat ((pool.flatMap StoredConstant.slots).length + 1), pool ++ [c])

def text (t : ShortText) : Assembler UInt16 :=
  constant (.text (Utf8.encode t.text) t.fits)

def className (t : ShortText) : Assembler UInt16 := do
  let name ← text t
  constant (.classRef name)

def superclass : Option ShortText → Assembler UInt16
  | none => return 0
  | some t => className t

def member (m : MemberOutline) : Assembler StoredMember := do
  let name ← text m.name
  let descriptor ← text m.descriptor
  return ⟨m.flags, name, descriptor, .empty⟩

/-- The one attribute that classes with annotations have, by the number of its name. -/
def attributes (annotations : List ShortText) : Assembler (List (UInt16 × Bytes)) :=
  if annotations.isEmpty then return []
  else do
    let types ← annotations.mapM text
    let name ← text ⟨ClassFile.visibleAnnotations, by decide +kernel⟩
    return [(name, counted (fun type => word type ++ stored 2 0) types)]

end Assembler

/-- What a class file holds besides its pool and its flags. -/
structure ClassNumbers where
  thisClass : UInt16
  superClass : UInt16
  interfaces : List UInt16
  fields : List StoredMember
  methods : List StoredMember
  attributes : List (UInt16 × Bytes)

def attributeBytes (a : UInt16 × Bytes) : Bytes :=
  word a.1 ++ (stored 4 a.2.length ++ a.2)

def ClassNumbers.bytes (n : ClassNumbers) (pool : List StoredConstant) (flags : UInt16) : Bytes :=
  [0xCA, 0xFE, 0xBA, 0xBE] ++ word 0 ++ word 52 ++
    (stored 2 ((pool.flatMap StoredConstant.slots).length + 1) ++
      pool.flatMap StoredConstant.bytes) ++
    word flags ++ word n.thisClass ++ word n.superClass ++ counted word n.interfaces ++
    counted StoredMember.bytes n.fields ++ counted StoredMember.bytes n.methods ++
    counted attributeBytes n.attributes

namespace ClassOutline

open Assembler

def assemble (o : ClassOutline) : Assembler ClassNumbers := do
  let thisClass ← className o.name
  let superClass ← superclass o.superName
  let interfaces ← o.interfaces.mapM className
  let fields ← o.fields.mapM member
  let methods ← o.methods.mapM member
  let attributes ← attributes o.annotations
  return ⟨thisClass, superClass, interfaces, fields, methods, attributes⟩

/-- The assembled class file. -/
def bytes (o : ClassOutline) : Bytes :=
  (o.assemble []).1.bytes (o.assemble []).2 o.flags

/-- A public class without members. -/
def plain (name superName : ShortText) : ClassOutline where
  name := name
  superName := some superName
  flags := 0x21
  interfaces := []
  fields := []
  methods := []
  annotations := []

/-- How many constants the class needs. -/
def constantCount (o : ClassOutline) : Nat :=
  2 + 2 * o.superName.toList.length + 2 * o.interfaces.length + 2 * o.fields.length +
    2 * o.methods.length + if o.annotations.isEmpty then 0 else o.annotations.length + 1

/-- The constants can be numbered by two bytes. -/
def Fits (o : ClassOutline) : Prop :=
  o.constantCount + 1 < UInt16.size

end ClassOutline

/-! ## Growing pools -/

namespace StoredPool

theorem constant?_of_isPrefix {pool : StoredPool} {before : List StoredConstant}
    {c : StoredConstant} {slots : List (Option StoredConstant)} (hc : c.slots = some c :: slots)
    (h : before ++ [c] <+: pool.constants) :
    pool.constant? (UInt16.ofNat ((before.flatMap StoredConstant.slots).length + 1)) = some c := by
  obtain ⟨after, hafter⟩ := h
  have hslots : pool.slots = before.flatMap StoredConstant.slots ++ some c :: (slots ++
      after.flatMap StoredConstant.slots) := by
    simp [StoredPool.slots, ← hafter, hc]
  have hnumber : (before.flatMap StoredConstant.slots).length + 1 < UInt16.size := by
    have hfits := pool.fits
    have hlength := congrArg List.length hslots
    rw [StoredPool.slots, List.length_append, List.length_cons] at hlength
    omega
  have hindex : (UInt16.ofNat ((before.flatMap StoredConstant.slots).length + 1)).toNat =
      (before.flatMap StoredConstant.slots).length + 1 := UInt16.toNat_ofNat_of_lt' hnumber
  rw [constant?, hindex, List.getElem?_cons_succ, hslots, List.getElem?_append_right le_rfl]
  simp

/-- Zero is the number of no constant. -/
theorem ne_zero_of_spells {pool : StoredPool} {ref : UInt16 → StoredConstant} {index : UInt16}
    {name : String} (h : pool.Spells ref index name) : index ≠ 0 := by
  rintro rfl
  obtain ⟨nameIndex, hindex, -⟩ := h
  cases hindex

end StoredPool

namespace Assembler

variable {α β : Type} {n k : Nat} {R : StoredPool → α → Prop} {S : StoredPool → β → Prop}

/-- Appends `n` constants, and what it returns has its meaning in every pool that opens with all
constants so far. -/
def Assembles (m : Assembler α) (n : Nat) (R : StoredPool → α → Prop) : Prop :=
  ∀ before, ∃ added, (m before).2 = before ++ added ∧
    (added.flatMap StoredConstant.slots).length = n ∧ (∀ c ∈ added, c.Legible) ∧
    ∀ pool : StoredPool, before ++ added <+: pool.constants → R pool (m before).1

theorem Assembles.pure {a : α} (h : ∀ pool, R pool a) : Assembles (pure a) 0 R := by
  intro before
  exact ⟨[], (List.append_nil before).symm, rfl, by simp, fun pool _ => h pool⟩

theorem Assembles.imp {m : Assembler α} {R' : StoredPool → α → Prop} (hm : Assembles m n R)
    (h : ∀ pool a, R pool a → R' pool a) : Assembles m n R' := by
  intro before
  obtain ⟨added, hpool, hcount, hlegible, hR⟩ := hm before
  exact ⟨added, hpool, hcount, hlegible, fun pool hopens => h pool _ (hR pool hopens)⟩

theorem Assembles.bind {m : Assembler α} {f : α → Assembler β} (hm : Assembles m n R)
    (hf : ∀ a, Assembles (f a) k fun pool b => R pool a → S pool b) :
    Assembles (m >>= f) (n + k) S := by
  intro before
  obtain ⟨added, hpool, hcount, hlegible, hR⟩ := hm before
  obtain ⟨more, hpool', hcount', hlegible', hS⟩ := hf (m before).1 (before ++ added)
  have hrun : (m >>= f) before = f (m before).1 (before ++ added) := by
    rw [← hpool]
    rfl
  refine ⟨added ++ more, ?_, ?_, ?_, ?_⟩
  · rw [hrun, hpool', List.append_assoc]
  · rw [List.flatMap_append, List.length_append, hcount, hcount']
  · intro c hc
    rcases List.mem_append.mp hc with hc | hc
    · exact hlegible c hc
    · exact hlegible' c hc
  · intro pool hopens
    rw [hrun]
    rw [← List.append_assoc] at hopens
    exact hS pool hopens (hR pool ((List.prefix_append _ _).trans hopens))

theorem assembles_mapM {f : α → Assembler β} {R : StoredPool → α → β → Prop}
    (hf : ∀ a, Assembles (f a) n fun pool => R pool a) (l : List α) :
    Assembles (l.mapM f) (n * l.length) fun pool => List.Forall₂ (R pool) l := by
  induction l with
  | nil => exact .pure fun _ => .nil
  | cons a l ih =>
    rw [List.mapM_cons, List.length_cons, Nat.mul_succ, Nat.add_comm]
    refine (hf a).bind fun b => ih.bind fun bs => .pure ?_
    exact fun pool hbs hb => .cons hb hbs

theorem assembles_constant {c : StoredConstant} (hslots : c.slots = [some c]) (hc : c.Legible) :
    Assembles (constant c) 1 fun pool index => pool.constant? index = some c := by
  intro before
  refine ⟨[c], rfl, by simp [hslots], by simpa using hc, fun pool hopens => ?_⟩
  exact StoredPool.constant?_of_isPrefix hslots hopens

theorem assembles_text (t : ShortText) :
    Assembles (text t) 1 fun pool index => pool.HasText index t.text := by
  have hlegible : (StoredConstant.text (Utf8.encode t.text) t.fits).Legible := by
    rintro bytes fits ⟨⟩
    rw [Text.ModifiedUtf8.decode?_encode]
    rfl
  exact (assembles_constant rfl hlegible).imp fun pool index hindex => ⟨t.fits, hindex⟩

theorem assembles_className (t : ShortText) :
    Assembles (className t) 2 fun pool index => pool.Spells .classRef index t.text := by
  refine (assembles_text t).bind (k := 1) fun name => ?_
  have hlegible : (StoredConstant.classRef name).Legible := by
    rintro bytes fits ⟨⟩
  exact (assembles_constant rfl hlegible).imp fun pool index hindex hname => ⟨name, hindex, hname⟩

/-- The number leads to the superclass, if there is one. -/
def SpellsSuperclass (superName : Option ShortText) (pool : StoredPool) (index : UInt16) : Prop :=
  superName = none ∧ index = 0 ∨
    ∃ t, superName = some t ∧ pool.Spells .classRef index t.text

theorem assembles_superclass (superName : Option ShortText) :
    Assembles (superclass superName) (2 * superName.toList.length)
      (SpellsSuperclass superName) := by
  cases superName with
  | none => exact .pure fun _ => .inl ⟨rfl, rfl⟩
  | some t => exact (assembles_className t).imp fun pool index hindex => .inr ⟨t, rfl, hindex⟩

structure SpellsMember (pool : StoredPool) (m : MemberOutline) (s : StoredMember) : Prop where
  flags : s.flags = m.flags
  name : pool.HasText s.name m.name.text
  descriptor : pool.HasText s.descriptor m.descriptor.text
  attributes : s.attributes.rows = []

theorem assembles_member (m : MemberOutline) :
    Assembles (member m) 2 fun pool => SpellsMember pool m := by
  refine (assembles_text m.name).bind (k := 1) fun name => ?_
  refine (assembles_text m.descriptor).bind (k := 0) fun descriptor => .pure ?_
  exact fun pool hdescriptor hname => ⟨rfl, hname, hdescriptor, rfl⟩

/-- There is one attribute, with the annotations in it, if there are any. -/
def SpellsAttributes (annotations : List ShortText) (pool : StoredPool)
    (numbered : List (UInt16 × Bytes)) : Prop :=
  annotations = [] ∧ numbered = [] ∨ ∃ name types,
    numbered = [(name, counted (fun type => word type ++ stored 2 0) types)] ∧
    pool.HasText name ClassFile.visibleAnnotations ∧
    List.Forall₂ (fun t index => pool.HasText index t.text) annotations types

theorem assembles_attributes (annotations : List ShortText) :
    Assembles (attributes annotations)
      (if annotations.isEmpty then 0 else annotations.length + 1)
      (SpellsAttributes annotations) := by
  unfold attributes
  split
  · next hnone => exact .pure fun _ => .inl ⟨List.isEmpty_iff.mp hnone, rfl⟩
  · rw [← Nat.one_mul annotations.length]
    refine (assembles_mapM assembles_text annotations).bind (k := 1) fun types => ?_
    refine (assembles_text _).bind (k := 0) fun name => .pure ?_
    exact fun pool hname htypes => .inr ⟨name, types, rfl, hname, htypes⟩

/-- The numbers lead to what the outline says. -/
structure SpellsClass (o : ClassOutline) (pool : StoredPool) (n : ClassNumbers) : Prop where
  thisClass : pool.Spells .classRef n.thisClass o.name.text
  superClass : SpellsSuperclass o.superName pool n.superClass
  interfaces : List.Forall₂ (fun t index => pool.Spells .classRef index t.text)
    o.interfaces n.interfaces
  fields : List.Forall₂ (SpellsMember pool) o.fields n.fields
  methods : List.Forall₂ (SpellsMember pool) o.methods n.methods
  attributes : SpellsAttributes o.annotations pool n.attributes

theorem assembles_assemble (o : ClassOutline) :
    Assembles o.assemble o.constantCount (SpellsClass o) := by
  have hcount : o.constantCount = 2 + (2 * o.superName.toList.length + (2 * o.interfaces.length +
      (2 * o.fields.length + (2 * o.methods.length +
        ((if o.annotations.isEmpty then 0 else o.annotations.length + 1) + 0))))) := by
    simp only [ClassOutline.constantCount, Nat.add_assoc, Nat.add_zero]
  rw [hcount]
  refine (assembles_className o.name).bind fun thisClass => ?_
  refine (assembles_superclass o.superName).bind fun superClass => ?_
  refine (assembles_mapM assembles_className o.interfaces).bind fun interfaces => ?_
  refine (assembles_mapM assembles_member o.fields).bind fun fields => ?_
  refine (assembles_mapM assembles_member o.methods).bind fun methods => ?_
  refine (assembles_attributes o.annotations).bind fun attributes => .pure ?_
  intro pool hattributes hmethods hfields hinterfaces hsuperClass hthisClass
  exact ⟨hthisClass, hsuperClass, hinterfaces, hfields, hmethods, hattributes⟩

end Assembler

/-! ## Assembled files -/

namespace ClassOutline

open Assembler

/-- An attribute by the number of its name. -/
def attributeRow (a : StoredAttribute) : UInt16 × Bytes :=
  (a.name, a.body)

theorem exists_table_of_spellsAttributes {annotations : List ShortText} {pool : StoredPool}
    {numbered : List (UInt16 × Bytes)} (h : SpellsAttributes annotations pool numbered)
    (hcount : annotations.length < UInt16.size) :
    ∃ t : Table StoredAttribute, numbered = t.rows.map attributeRow := by
  obtain ⟨-, rfl⟩ | ⟨name, types, rfl, -, htypes⟩ := h
  · exact ⟨.empty, rfl⟩
  · have hbody : (counted (fun type => word type ++ stored 2 0) types).length < UInt32.size := by
      rw [htypes.length_eq] at hcount
      simp [counted, List.length_flatMap, UInt32.size, UInt16.size] at hcount ⊢
      omega
    exact ⟨⟨[⟨name, _, hbody⟩], by simp [UInt16.size]⟩, rfl⟩

theorem Fits.lengths {o : ClassOutline} (h : o.Fits) :
    o.interfaces.length < UInt16.size ∧ o.fields.length < UInt16.size ∧
      o.methods.length < UInt16.size ∧ o.annotations.length < UInt16.size := by
  have hannotations : o.annotations.length ≤
      if o.annotations.isEmpty then 0 else o.annotations.length + 1 := by
    split <;> simp_all
  rw [Fits, constantCount] at h
  omega

/-- An assembled file is a stored one, and all texts in it are legible. -/
theorem exists_stored {o : ClassOutline} (h : o.Fits) :
    ∃ file : StoredFile, file.bytes = o.bytes ∧ file.flags = o.flags ∧
      (∀ c ∈ file.pool.constants, c.Legible) ∧
      SpellsClass o file.pool ⟨file.thisClass, file.superClass, file.interfaces.rows,
        file.fields.rows, file.methods.rows, file.attributes.rows.map attributeRow⟩ := by
  obtain ⟨constants, hpool, hcount, hlegible, hspells⟩ := assembles_assemble o []
  rw [List.nil_append] at hpool
  have hnumbers := hspells ⟨constants, by rwa [hcount]⟩ (List.prefix_refl _)
  obtain ⟨hinterfaces, hfields, hmethods, hannotations⟩ := h.lengths
  rw [hnumbers.interfaces.length_eq] at hinterfaces
  rw [hnumbers.fields.length_eq] at hfields
  rw [hnumbers.methods.length_eq] at hmethods
  obtain ⟨attributes, hattributes⟩ :=
    exists_table_of_spellsAttributes hnumbers.attributes hannotations
  let file : StoredFile := {
    minor := 0
    major := 52
    pool := ⟨constants, by rwa [hcount]⟩
    flags := o.flags
    thisClass := (o.assemble []).1.thisClass
    superClass := (o.assemble []).1.superClass
    interfaces := ⟨_, hinterfaces⟩
    fields := ⟨_, hfields⟩
    methods := ⟨_, hmethods⟩
    attributes := attributes }
  refine ⟨file, ?_, rfl, hlegible, ?_⟩
  · have hrows : attributes.bytes StoredAttribute.bytes =
        counted attributeBytes (attributes.rows.map attributeRow) := by
      rw [counted, List.length_map, List.flatMap_map]
      rfl
    rw [ClassOutline.bytes, hpool, ClassNumbers.bytes, hattributes, ← hrows]
    rfl
  · rw [← hattributes]
    exact hnumbers

end ClassOutline

end ClassAtlas
