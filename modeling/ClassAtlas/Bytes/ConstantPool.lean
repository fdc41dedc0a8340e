import ClassAtlas.Bytes.Reader

/-!
# Constant pools

The numbered constants at the head of a class file. Only texts and the
constants that name something are kept; the others are passed over. A constant
of eight bytes takes two numbers.
-/

namespace ClassAtlas

inductive PoolEntry where
  | text (value : String)
  /-- A class, module or package by the number of its name. -/
  | named (tag nameIndex : Nat)
  | other
deriving DecidableEq, Inhabited

namespace PoolEntry

def textTag : Nat := 1
def classTag : Nat := 7
def moduleTag : Nat := 19
def packageTag : Nat := 20

/-- The sizes of the constants that are passed over. -/
def otherSize? : Nat → Option Nat
  | 3 | 4 | 9 | 10 | 11 | 12 | 17 | 18 => some 4
  | 5 | 6 => some 8
  | 8 | 16 => some 2
  | 15 => some 3
  | _ => none

end PoolEntry

/-- Errors that a constant pool can give rise to. -/
class PoolFault (ε : Type) extends Truncation ε where
  unknownTag (tag : Nat) : ε

structure ConstantPool where
  entries : List PoolEntry
deriving DecidableEq

namespace ConstantPool

variable {ε : Type} [PoolFault ε]

/-- One constant, and whether it takes two numbers. -/
def readEntry (decode : Bytes → Except ε String) : Reader ε (PoolEntry × Bool) := do
  let tag ← Reader.u8
  if tag = PoolEntry.textTag then
    let size ← Reader.u16
    let bytes ← Reader.take size
    match decode bytes with
    | .ok value => return (.text value, false)
    | .error e => Reader.fail e
  else if tag = PoolEntry.classTag ∨ tag = PoolEntry.moduleTag ∨ tag = PoolEntry.packageTag then
    let nameIndex ← Reader.u16
    return (.named tag nameIndex, false)
  else
    match PoolEntry.otherSize? tag with
    | some size =>
      Reader.skip size
      return (.other, size == 8)
    | none => Reader.fail (PoolFault.unknownTag tag)

/-- The constants for the next `n` numbers, the first of which may still belong to the constant
before it. -/
def readEntries (decode : Bytes → Except ε String) : Nat → Bool → Reader ε (List PoolEntry)
  | 0, _ => pure []
  | n + 1, true => do
    let entries ← readEntries decode n false
    return .other :: entries
  | n + 1, false => do
    let (entry, wide) ← readEntry decode
    let entries ← readEntries decode n wide
    return entry :: entries

/-- Reads a pool whose texts are decoded by `decode`. The number zero belongs to no constant. -/
def read (decode : Bytes → Except ε String) : Reader ε ConstantPool := do
  let count ← Reader.u16
  let entries ← readEntries decode (count - 1) false
  return ⟨.other :: entries⟩

def text? (pool : ConstantPool) (index : Nat) : Option String :=
  match pool.entries[index]? with
  | some (.text value) => some value
  | _ => none

/-- The number of the name that a constant with this tag gives. -/
def nameIndex? (pool : ConstantPool) (tag index : Nat) : Option Nat :=
  match pool.entries[index]? with
  | some (.named t nameIndex) => if t = tag then some nameIndex else none
  | _ => none

end ConstantPool

end ClassAtlas
