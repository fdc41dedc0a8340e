import ClassAtlas.Bytes.ConstantPool
import ClassAtlas.Proofs.Bytes.Reading

/-!
# Stored constant pools

Every kind of constant as a class file stores it, and which number a constant
has in its pool. Reading a stored pool keeps its texts and the constants that
name something under their own numbers.
-/

namespace ClassAtlas

/-! ## Constants -/

inductive StoredConstant where
  | text (bytes : Bytes) (fits : bytes.length < UInt16.size)
  | integer (bits : UInt32)
  | float (bits : UInt32)
  | long (bits : UInt64)
  | double (bits : UInt64)
  | classRef (name : UInt16)
  | string (text : UInt16)
  | fieldRef (owner member : UInt16)
  | methodRef (owner member : UInt16)
  | interfaceMethodRef (owner member : UInt16)
  | nameAndType (name descriptor : UInt16)
  | methodHandle (kind : UInt8) (reference : UInt16)
  | methodType (descriptor : UInt16)
  | dynamic (bootstrap nameAndType : UInt16)
  | invokeDynamic (bootstrap nameAndType : UInt16)
  | moduleRef (name : UInt16)
  | packageRef (name : UInt16)
deriving DecidableEq

namespace StoredConstant

def tag : StoredConstant → UInt8
  | text .. => 1
  | integer .. => 3
  | float .. => 4
  | long .. => 5
  | double .. => 6
  | classRef .. => 7
  | string .. => 8
  | fieldRef .. => 9
  | methodRef .. => 10
  | interfaceMethodRef .. => 11
  | nameAndType .. => 12
  | methodHandle .. => 15
  | methodType .. => 16
  | dynamic .. => 17
  | invokeDynamic .. => 18
  | moduleRef .. => 19
  | packageRef .. => 20

def body : StoredConstant → Bytes
  | text bytes _ => stored 2 bytes.length ++ bytes
  | integer bits | float bits => stored 4 bits.toNat
  | long bits | double bits => stored 8 bits.toNat
  | classRef index | string index | methodType index | moduleRef index | packageRef index =>
    word index
  | fieldRef first second | methodRef first second | interfaceMethodRef first second
  | nameAndType first second | dynamic first second | invokeDynamic first second =>
    word first ++ word second
  | methodHandle kind reference => kind :: word reference

def bytes (c : StoredConstant) : Bytes :=
  c.tag :: c.body

/-- The constant under its number, and the number after it that a constant of eight bytes takes
too. -/
def slots (c : StoredConstant) : List (Option StoredConstant) :=
  match c with
  | long .. | double .. => [some c, none]
  | _ => [some c]

/-- What is kept of a constant, when texts are understood by `spell`. -/
def entry (spell : Bytes → String) : StoredConstant → PoolEntry
  | text bytes _ => .text (spell bytes)
  | classRef name => .named 7 name.toNat
  | moduleRef name => .named 19 name.toNat
  | packageRef name => .named 20 name.toNat
  | _ => .other

end StoredConstant

/-! ## Pools -/

/-- Constants that can be numbered by two bytes. -/
structure StoredPool where
  constants : List StoredConstant
  fits : (constants.flatMap StoredConstant.slots).length + 1 < UInt16.size

namespace StoredPool

def slots (pool : StoredPool) : List (Option StoredConstant) :=
  pool.constants.flatMap StoredConstant.slots

def bytes (pool : StoredPool) : Bytes :=
  stored 2 (pool.slots.length + 1) ++ pool.constants.flatMap StoredConstant.bytes

/-- The constant with this number; the first one has the number one. -/
def constant? (pool : StoredPool) (index : UInt16) : Option StoredConstant :=
  (none :: pool.slots)[index.toNat]?.join

end StoredPool

/-! ## Reading -/

namespace ConstantPool

open Reader

variable {ε : Type} [PoolFault ε] {decode : Bytes → Except ε String} {spell : Bytes → String}

theorem reads_text {bytes : Bytes} (fits : bytes.length < UInt16.size)
    (hdecode : decode bytes = .ok (spell bytes)) :
    Reads (readEntry decode) ([1] ++ (stored 2 bytes.length ++ bytes))
      (.text (spell bytes), false) := by
  have htag : (1 : UInt8).toNat = PoolEntry.textTag := rfl
  refine (Reads.u8 1).bind ?_
  rw [if_pos htag]
  refine (Reads.nat fits).bind ((Reads.take rfl).last ?_)
  rw [hdecode]

theorem reads_named {tag : UInt8} (htag : tag = 7 ∨ tag = 19 ∨ tag = 20) (name : UInt16) :
    Reads (readEntry decode) ([tag] ++ word name) (.named tag.toNat name.toNat, false) := by
  refine (Reads.u8 tag).bind ?_
  have htext : tag.toNat ≠ PoolEntry.textTag := by
    rcases htag with rfl | rfl | rfl <;> decide
  have hnamed : tag.toNat = PoolEntry.classTag ∨ tag.toNat = PoolEntry.moduleTag ∨
      tag.toNat = PoolEntry.packageTag := by
    rcases htag with rfl | rfl | rfl <;> decide
  rw [if_neg htext, if_pos hnamed]
  exact (Reads.u16 name).last rfl

theorem reads_other {tag : UInt8} {body : Bytes}
    (hsize : PoolEntry.otherSize? tag.toNat = some body.length) :
    Reads (readEntry decode) ([tag] ++ body) (.other, body.length == 8) := by
  refine (Reads.u8 tag).bind ?_
  have hkinds : ¬(tag.toNat = PoolEntry.textTag) ∧ ¬(tag.toNat = PoolEntry.classTag ∨
      tag.toNat = PoolEntry.moduleTag ∨ tag.toNat = PoolEntry.packageTag) := by
    constructor
    · intro h
      rw [h] at hsize
      cases hsize
    · rintro (h | h | h) <;> rw [h] at hsize <;> cases hsize
  rw [if_neg hkinds.1, if_neg hkinds.2, hsize]
  exact (Reads.skip rfl).last rfl

theorem reads_readEntry (c : StoredConstant)
    (hdecode : ∀ bytes fits, c = .text bytes fits → decode bytes = .ok (spell bytes)) :
    Reads (readEntry decode) c.bytes (c.entry spell, c.slots.length == 2) := by
  cases c with
  | text bytes fits => exact reads_text fits (hdecode bytes fits rfl)
  | classRef name => exact reads_named (.inl rfl) name
  | moduleRef name => exact reads_named (.inr (.inl rfl)) name
  | packageRef name => exact reads_named (.inr (.inr rfl)) name
  | _ => exact reads_other rfl

/-- What is kept under every number. -/
def kept (spell : Bytes → String) (slot : Option StoredConstant) : PoolEntry :=
  (slot.map (StoredConstant.entry spell)).getD .other

theorem reads_readEntries {constants : List StoredConstant}
    (hdecode : ∀ bytes fits, .text bytes fits ∈ constants → decode bytes = .ok (spell bytes)) :
    Reads (readEntries decode (constants.flatMap StoredConstant.slots).length false)
      (constants.flatMap StoredConstant.bytes)
      ((constants.flatMap StoredConstant.slots).map (kept spell)) := by
  induction constants with
  | nil => exact Reads.pure []
  | cons c constants ih =>
    have hfirst : Reads (readEntry decode) c.bytes (c.entry spell, c.slots.length == 2) := by
      apply reads_readEntry
      rintro bytes fits rfl
      exact hdecode bytes fits List.mem_cons_self
    have hothers := ih fun bytes fits h => hdecode bytes fits (List.mem_cons_of_mem _ h)
    rw [List.flatMap_cons, List.flatMap_cons]
    have hslots : c.slots = [some c] ∨ c.slots = [some c, none] := by
      cases c <;> simp [StoredConstant.slots]
    rcases hslots with h | h <;> rw [h] at hfirst ⊢
    · exact hfirst.bind (hothers.last rfl)
    · -- The second number is passed over before the other constants are read.
      have hpassed : Reads
          (readEntries decode ((constants.flatMap StoredConstant.slots).length + 1) true)
          (constants.flatMap StoredConstant.bytes)
          (.other :: (constants.flatMap StoredConstant.slots).map (kept spell)) :=
        hothers.last rfl
      exact hfirst.bind (hpassed.last rfl)

end ConstantPool

namespace StoredPool

open Reader

variable {ε : Type} [PoolFault ε] {decode : Bytes → Except ε String} {spell : Bytes → String}

/-- The pool that is read from a stored one. -/
def kept (spell : Bytes → String) (pool : StoredPool) : ConstantPool :=
  ⟨(none :: pool.slots).map (ConstantPool.kept spell)⟩

theorem reads_read (pool : StoredPool)
    (hdecode : ∀ bytes fits, .text bytes fits ∈ pool.constants → decode bytes = .ok (spell bytes)) :
    Reads (ConstantPool.read decode) pool.bytes (pool.kept spell) :=
  (Reads.nat pool.fits).bind ((ConstantPool.reads_readEntries hdecode).last rfl)

theorem entries_kept {pool : StoredPool} {index : UInt16} {c : StoredConstant}
    (h : pool.constant? index = some c) :
    (pool.kept spell).entries[index.toNat]? = some (c.entry spell) := by
  have hslot : (none :: pool.slots)[index.toNat]? = some (some c) := Option.join_eq_some_iff.1 h
  simp only [kept, List.getElem?_map, hslot]
  rfl

theorem text?_kept {pool : StoredPool} {index : UInt16} {bytes : Bytes}
    {fits : bytes.length < UInt16.size} (h : pool.constant? index = some (.text bytes fits)) :
    (pool.kept spell).text? index.toNat = some (spell bytes) := by
  simp [ConstantPool.text?, entries_kept h, StoredConstant.entry]

end StoredPool

end ClassAtlas
