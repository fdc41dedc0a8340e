import ClassAtlas.Module.File
import ClassAtlas.Proofs.Bytes.ConstantPool
import ClassAtlas.Proofs.Text.Utf8

/-!
# Stored module files

The layout of a class file that describes a module: a pool of any constants,
any fields and methods, and attributes of which one holds the directives. The
names in the directives are numbers into the pool. Decoding such a file gives
the descriptor that its directives spell, whatever else stands in it.
-/

namespace ClassAtlas

open Text (Utf8.encode Utf8.decodeLossy)

/-! ## Layout -/

structure StoredAttribute where
  name : UInt16
  body : Bytes
  fits : body.length < UInt32.size

def StoredAttribute.bytes (a : StoredAttribute) : Bytes :=
  word a.name ++ (stored 4 a.body.length ++ a.body)

/-- A field or method. -/
structure StoredMember where
  flags : UInt16
  name : UInt16
  descriptor : UInt16
  attributes : Table StoredAttribute

def StoredMember.bytes (m : StoredMember) : Bytes :=
  word m.flags ++ word m.name ++ word m.descriptor ++ m.attributes.bytes StoredAttribute.bytes

structure StoredRequirement where
  module : UInt16
  flags : UInt16
  version : UInt16

def StoredRequirement.bytes (r : StoredRequirement) : Bytes :=
  word r.module ++ (word r.flags ++ word r.version)

structure StoredPackage where
  package : UInt16
  flags : UInt16
  targets : Table UInt16

def StoredPackage.bytes (p : StoredPackage) : Bytes :=
  word p.package ++ (word p.flags ++ p.targets.bytes word)

structure StoredProvision where
  service : UInt16
  providers : Table UInt16

def StoredProvision.bytes (p : StoredProvision) : Bytes :=
  word p.service ++ p.providers.bytes word

/-- The body of the attribute that describes a module. -/
structure StoredDirectives where
  name : UInt16
  flags : UInt16
  version : UInt16
  requires : Table StoredRequirement
  exports : Table StoredPackage
  opens : Table StoredPackage
  uses : Table UInt16
  provides : Table StoredProvision

def StoredDirectives.bytes (m : StoredDirectives) : Bytes :=
  word m.name ++ (word m.flags ++ (word m.version ++
    (m.requires.bytes StoredRequirement.bytes ++ (m.exports.bytes StoredPackage.bytes ++
      (m.opens.bytes StoredPackage.bytes ++ (m.uses.bytes word ++
        m.provides.bytes StoredProvision.bytes))))))

structure StoredFile where
  minor : UInt16
  major : UInt16
  pool : StoredPool
  flags : UInt16
  thisClass : UInt16
  superClass : UInt16
  interfaces : Table UInt16
  fields : Table StoredMember
  methods : Table StoredMember
  attributes : Table StoredAttribute

/-- What stands before the attributes. -/
def StoredFile.head (file : StoredFile) : Bytes :=
  [0xCA, 0xFE, 0xBA, 0xBE] ++ word file.minor ++ word file.major ++ file.pool.bytes ++
    word file.flags ++ word file.thisClass ++ word file.superClass ++
    file.interfaces.bytes word ++ file.fields.bytes StoredMember.bytes ++
    file.methods.bytes StoredMember.bytes

def StoredFile.bytes (file : StoredFile) : Bytes :=
  file.head ++ file.attributes.bytes StoredAttribute.bytes

theorem reads_magic {ε : Type} [Truncation ε] :
    Reader.Reads (Reader.u32 : Reader ε Nat) [0xCA, 0xFE, 0xBA, 0xBE] classFileMagic := by
  have hstored : stored 4 classFileMagic = [0xCA, 0xFE, 0xBA, 0xBE] := by decide
  have hfits : classFileMagic < 256 ^ 4 := by decide
  rw [← hstored]
  exact .nat hfits

/-! ## Meaning -/

namespace StoredPool

def HasText (pool : StoredPool) (index : UInt16) (text : String) : Prop :=
  ∃ fits, pool.constant? index = some (.text (Utf8.encode text) fits)

/-- The number leads to this name through a constant of the kind `ref`. -/
def Spells (pool : StoredPool) (ref : UInt16 → StoredConstant) (index : UInt16) (name : String) :
    Prop :=
  ∃ nameIndex, pool.constant? index = some (ref nameIndex) ∧ pool.HasText nameIndex name

end StoredPool

structure StoredRequirement.Describes (pool : StoredPool) (r : StoredRequirement)
    (q : Requirement) : Prop where
  module : pool.Spells .moduleRef r.module q.module
  flags : r.flags = q.flags

structure StoredPackage.Describes (pool : StoredPool) (p : StoredPackage)
    (q : PackageDirective) : Prop where
  package : pool.Spells .packageRef p.package q.package
  flags : p.flags = q.flags
  targets : List.Forall₂ (pool.Spells .moduleRef) p.targets.rows q.targets

structure StoredProvision.Describes (pool : StoredPool) (p : StoredProvision)
    (q : Provision) : Prop where
  service : pool.Spells .classRef p.service q.service
  providers : List.Forall₂ (pool.Spells .classRef) p.providers.rows q.providers

structure StoredDirectives.Describes (pool : StoredPool) (m : StoredDirectives)
    (d : ModuleDescriptor) : Prop where
  name : pool.Spells .moduleRef m.name d.name
  flags : m.flags = d.flags
  requires : List.Forall₂ (StoredRequirement.Describes pool) m.requires.rows d.requires
  exports : List.Forall₂ (StoredPackage.Describes pool) m.exports.rows d.exports
  opens : List.Forall₂ (StoredPackage.Describes pool) m.opens.rows d.opens
  uses : List.Forall₂ (pool.Spells .classRef) m.uses.rows d.uses
  provides : List.Forall₂ (StoredProvision.Describes pool) m.provides.rows d.provides

/-! ## Reading the directives -/

namespace ModuleFile

open Reader

variable {pool : StoredPool}

/-- The pool as module files read it. -/
def keptPool (pool : StoredPool) : ConstantPool :=
  pool.kept Utf8.decodeLossy

theorem text_keptPool {index : UInt16} {bytes : Bytes} {fits : bytes.length < UInt16.size}
    (h : pool.constant? index = some (.text bytes fits)) :
    text (keptPool pool) index.toNat = pure (Utf8.decodeLossy bytes) := by
  rw [text, keptPool, StoredPool.text?_kept h]

theorem text_of_hasText {index : UInt16} {value : String} (h : pool.HasText index value) :
    text (keptPool pool) index.toNat = pure value := by
  obtain ⟨fits, h⟩ := h
  rw [text_keptPool h, Text.Utf8.decodeLossy_encode]

section Names

variable {ref : UInt16 → StoredConstant} {tag : Nat}

theorem reads_name
    (href : ∀ n, (ref n).entry Utf8.decodeLossy = .named tag n.toNat)
    {index : UInt16} {value : String} (h : pool.Spells ref index value) :
    Reads (name (keptPool pool) tag) (word index) value := by
  obtain ⟨nameIndex, hindex, htext⟩ := h
  have hname : (keptPool pool).nameIndex? tag index.toNat = some nameIndex.toNat := by
    simp [ConstantPool.nameIndex?, keptPool, StoredPool.entries_kept hindex, href]
  apply (Reads.u16 index).last
  rw [hname]
  exact text_of_hasText htext

theorem reads_names
    (href : ∀ n, (ref n).entry Utf8.decodeLossy = .named tag n.toNat)
    {t : Table UInt16} {values : List String} (h : List.Forall₂ (pool.Spells ref) t.rows values) :
    Reads (Reader.list (name (keptPool pool) tag)) (t.bytes word) values :=
  Reads.list (h.imp fun _ _ => reads_name href)

end Names

theorem reads_requirement {r : StoredRequirement} {q : Requirement} (h : r.Describes pool q) :
    Reads (requirement (keptPool pool)) r.bytes q := by
  have hflags : Reads (flags : Read UInt16) (word r.flags) q.flags := h.flags ▸ Reads.flags r.flags
  exact (reads_name (fun _ => rfl) h.module).bind (hflags.bind ((Reads.skip (by simp)).last rfl))

theorem reads_packageDirective {p : StoredPackage} {q : PackageDirective} (h : p.Describes pool q) :
    Reads (packageDirective (keptPool pool)) p.bytes q := by
  have hflags : Reads (flags : Read UInt16) (word p.flags) q.flags := h.flags ▸ Reads.flags p.flags
  exact (reads_name (fun _ => rfl) h.package).bind
    (hflags.bind ((reads_names (fun _ => rfl) h.targets).last rfl))

theorem reads_provision {p : StoredProvision} {q : Provision} (h : p.Describes pool q) :
    Reads (provision (keptPool pool)) p.bytes q :=
  (reads_name (fun _ => rfl) h.service).bind
    ((reads_names (fun _ => rfl) h.providers).last rfl)

theorem reads_descriptor {m : StoredDirectives} {d : ModuleDescriptor} (h : m.Describes pool d) :
    Reads (descriptor (keptPool pool)) m.bytes d := by
  have hflags : Reads (flags : Read UInt16) (word m.flags) d.flags := h.flags ▸ Reads.flags m.flags
  refine (reads_name (fun _ => rfl) h.name).bind (hflags.bind ((Reads.skip (by simp)).bind ?_))
  refine (Reads.list (h.requires.imp fun _ _ => reads_requirement)).bind ?_
  refine (Reads.list (h.exports.imp fun _ _ => reads_packageDirective)).bind ?_
  refine (Reads.list (h.opens.imp fun _ _ => reads_packageDirective)).bind ?_
  refine (reads_names (fun _ => rfl) h.uses).bind ?_
  exact (Reads.list (h.provides.imp fun _ _ => reads_provision)).last rfl

/-! ## Finding them -/

theorem reads_skipAttribute (a : StoredAttribute) : Reads skipAttribute a.bytes () :=
  (Reads.skip (by simp)).bind ((Reads.nat a.fits).bind (Reads.skip rfl))

theorem reads_skipMember (m : StoredMember) : Reads skipMember m.bytes () :=
  (Reads.skip (by simp)).bind ((Reads.list_unit reads_skipAttribute m.attributes).last rfl)

variable {a : StoredAttribute} {d : ModuleDescriptor}

theorem reads_findDescriptor_found (hname : text (keptPool pool) a.name.toNat = pure attributeName)
    (hd : (descriptor (keptPool pool)).runOn a.body = .ok d) (n : Nat) :
    Reads (findDescriptor (keptPool pool) (n + 1)) a.bytes d := by
  refine (Reads.u16 a.name).bind ?_
  rw [hname]
  refine (Reads.pure attributeName).bind ((Reads.nat a.fits).bind ((Reads.take rfl).last ?_))
  rw [if_pos rfl, hd]

theorem reads_findDescriptor_passed {other : String} {bytes : Bytes} {n : Nat}
    (hname : text (keptPool pool) a.name.toNat = pure other) (hother : other ≠ attributeName)
    (hnext : Reads (findDescriptor (keptPool pool) n) bytes d) :
    Reads (findDescriptor (keptPool pool) (n + 1)) (a.bytes ++ bytes) d := by
  rw [StoredAttribute.bytes, List.append_assoc, List.append_assoc]
  refine (Reads.u16 a.name).bind ?_
  rw [hname]
  refine (Reads.pure other).bind ((Reads.nat a.fits).bind ((Reads.take rfl).bind ?_))
  rw [if_neg hother]
  exact hnext

/-- The first attribute of the right name is read, and those before it are passed over. -/
theorem reads_findDescriptor {before : List StoredAttribute} {m : StoredDirectives}
    (hbefore : ∀ other ∈ before, ∃ bytes fits,
      pool.constant? other.name = some (.text bytes fits) ∧ bytes ≠ Utf8.encode attributeName)
    (hname : pool.HasText a.name attributeName) (hbody : a.body = m.bytes)
    (hd : m.Describes pool d) {n : Nat} (hcount : before.length < n) :
    Reads (findDescriptor (keptPool pool) n)
      (before.flatMap StoredAttribute.bytes ++ a.bytes) d := by
  induction before generalizing n with
  | nil =>
    obtain ⟨n, rfl⟩ := Nat.exists_eq_add_one_of_ne_zero (Nat.ne_zero_of_lt hcount)
    have hrun : (descriptor (keptPool pool)).runOn a.body = .ok d := by
      simpa [hbody] using (reads_descriptor hd).runOn_append []
    exact reads_findDescriptor_found (text_of_hasText hname) hrun n
  | cons other before ih =>
    obtain ⟨n, rfl⟩ := Nat.exists_eq_add_one_of_ne_zero (Nat.ne_zero_of_lt hcount)
    obtain ⟨bytes, fits, htext, hbytes⟩ := hbefore other List.mem_cons_self
    have hother : Utf8.decodeLossy bytes ≠ attributeName :=
      fun h => hbytes (Text.Utf8.eq_encode_of_decodeLossy h (by decide))
    rw [List.flatMap_cons, List.append_assoc]
    apply reads_findDescriptor_passed (text_keptPool htext) hother
    exact ih (fun a h => hbefore a (List.mem_cons_of_mem _ h)) (Nat.lt_of_succ_lt_succ hcount)

/-! ## Whole files -/

theorem length_flatMap_word (ws : List UInt16) : (ws.flatMap word).length = ws.length * 2 := by
  simp [List.length_flatMap]

theorem reads_head {file : StoredFile} (hflags : file.flags &&& 0x8000 = 0x8000) :
    Reads head (file.head ++ stored 2 file.attributes.rows.length)
      (keptPool file.pool, file.attributes.rows.length) := by
  -- The words that are passed over together stand together.
  have hgroups : file.head ++ stored 2 file.attributes.rows.length =
      [0xCA, 0xFE, 0xBA, 0xBE] ++ ((word file.minor ++ word file.major) ++ (file.pool.bytes ++
        (word file.flags ++ ((word file.thisClass ++ word file.superClass) ++
          (stored 2 file.interfaces.rows.length ++ (file.interfaces.rows.flatMap word ++
            (file.fields.bytes StoredMember.bytes ++ (file.methods.bytes StoredMember.bytes ++
              (stored 2 file.attributes.rows.length ++ []))))))))) := by
    simp [StoredFile.head, Table.bytes]
  have hmodule : ¬(file.flags &&& moduleFlag = 0) := by
    rw [moduleFlag, hflags]
    decide
  rw [hgroups]
  refine reads_magic.bind ?_
  rw [if_neg (not_not_intro rfl)]
  refine (Reads.skip (by simp)).bind ((file.pool.reads_read fun _ _ _ => rfl).bind ?_)
  refine (Reads.flags file.flags).bind ?_
  rw [if_neg hmodule]
  refine (Reads.skip (by simp)).bind ((Reads.nat file.interfaces.fits).bind ?_)
  refine (Reads.skip (length_flatMap_word _)).bind ?_
  refine (Reads.list_unit reads_skipMember file.fields).bind ?_
  refine (Reads.list_unit reads_skipMember file.methods).bind ?_
  exact (Reads.nat file.attributes.fits).bind (Reads.pure _)

/-- Decoding inverts the layout: the first attribute called `Module` is found behind any constants,
members and other attributes, and its directives come out as they were spelled, in order. -/
theorem decode_stored_file {file : StoredFile} (hflags : file.flags &&& 0x8000 = 0x8000)
    {before after : List StoredAttribute} {a : StoredAttribute}
    (hrows : file.attributes.rows = before ++ a :: after)
    (hbefore : ∀ other ∈ before, ∃ bytes fits,
      file.pool.constant? other.name = some (.text bytes fits) ∧ bytes ≠ Utf8.encode "Module")
    (hname : file.pool.HasText a.name "Module")
    {m : StoredDirectives} (hbody : a.body = m.bytes)
    {d : ModuleDescriptor} (hd : m.Describes file.pool d) :
    decode file.bytes = .ok d := by
  have hcount : before.length < file.attributes.rows.length := by simp [hrows]
  have hread : Reads ModuleFile.file _ d :=
    (reads_head hflags).bind (reads_findDescriptor hbefore hname hbody hd hcount)
  have hbytes : file.bytes = (file.head ++ stored 2 file.attributes.rows.length ++
      (before.flatMap StoredAttribute.bytes ++ a.bytes)) ++
        after.flatMap StoredAttribute.bytes := by
    simp [StoredFile.bytes, Table.bytes, hrows]
  rw [decode, hbytes]
  exact hread.runOn_append _

/-- Constants of one number and of two, texts that are UTF-8 and one that is not. -/
def crowdedPool : StoredPool where
  constants :=
    [.long 0x0123456789ABCDEF, .text (Utf8.encode "Module") (by decide),
      .text [0x4D, 0xFF] (by decide), .text (Utf8.encode "é") (by decide), .moduleRef 5,
      .text (Utf8.encode "p/q") (by decide), .packageRef 7, .double 0, .methodHandle 6 1,
      .text (Utf8.encode "S") (by decide), .classRef 12]
  fits := by decide

def crowdedDirectives : StoredDirectives where
  name := 6
  flags := 0x0020
  version := 0
  requires := ⟨[⟨6, 0x8000, 5⟩], by decide⟩
  exports := ⟨[⟨8, 0, ⟨[6, 6], by decide⟩⟩], by decide⟩
  opens := ⟨[], by decide⟩
  uses := ⟨[13], by decide⟩
  provides := ⟨[⟨13, ⟨[13], by decide⟩⟩], by decide⟩

def crowdedBefore : StoredAttribute := ⟨4, [0, 7], by decide⟩

def crowdedAttribute : StoredAttribute := ⟨3, crowdedDirectives.bytes, by decide⟩

def crowdedAfter : StoredAttribute := ⟨3, [], by decide⟩

/-- Members with attributes of their own, and after the directives a second `Module` with none. -/
def crowdedFile : StoredFile where
  minor := 0
  major := 53
  pool := crowdedPool
  flags := 0x8000
  thisClass := 13
  superClass := 0
  interfaces := ⟨[13, 13, 13], by decide⟩
  fields := ⟨[⟨1, 12, 12, ⟨[⟨4, [1, 2, 3], by decide⟩], by decide⟩⟩], by decide⟩
  methods :=
    ⟨[⟨9, 12, 12, ⟨[], by decide⟩⟩, ⟨9, 5, 5, ⟨[⟨3, [], by decide⟩], by decide⟩⟩], by decide⟩
  attributes := ⟨[crowdedBefore, crowdedAttribute, crowdedAfter], by decide⟩

def crowdedModule : ModuleDescriptor where
  name := "é"
  flags := 0x0020
  requires := [⟨"é", 0x8000⟩]
  exports := [⟨"p/q", 0, ["é", "é"]⟩]
  opens := []
  provides := [⟨"S", ["S"]⟩]
  uses := ["S"]

theorem crowdedDirectives_describes : crowdedDirectives.Describes crowdedPool crowdedModule := by
  have hmodule : crowdedPool.Spells .moduleRef 6 "é" := ⟨5, rfl, by decide, rfl⟩
  have hpackage : crowdedPool.Spells .packageRef 8 "p/q" := ⟨7, rfl, by decide, rfl⟩
  have hclass : crowdedPool.Spells .classRef 13 "S" := ⟨12, rfl, by decide, rfl⟩
  exact
    { name := hmodule
      flags := rfl
      requires := .cons ⟨hmodule, rfl⟩ .nil
      exports := .cons ⟨hpackage, rfl, .cons hmodule (.cons hmodule .nil)⟩ .nil
      opens := .nil
      uses := .cons hclass .nil
      provides := .cons ⟨hclass, .cons hclass .nil⟩ .nil }

theorem decode_crowdedFile :
    crowdedFile.flags &&& 0x8000 = 0x8000 ∧
      crowdedDirectives.Describes crowdedFile.pool crowdedModule ∧
      decode crowdedFile.bytes = .ok crowdedModule := by
  have hrows : crowdedFile.attributes.rows =
      [crowdedBefore] ++ crowdedAttribute :: [crowdedAfter] := rfl
  have hbefore : ∀ other ∈ [crowdedBefore], ∃ bytes fits,
      crowdedFile.pool.constant? other.name = some (.text bytes fits) ∧
        bytes ≠ Utf8.encode "Module" := by
    intro other h
    obtain rfl := List.mem_singleton.1 h
    exact ⟨[0x4D, 0xFF], by decide, rfl, by decide⟩
  exact ⟨by decide, crowdedDirectives_describes,
    decode_stored_file (by decide) hrows hbefore ⟨by decide, rfl⟩ rfl crowdedDirectives_describes⟩

end ModuleFile

end ClassAtlas
