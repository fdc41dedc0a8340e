import ClassAtlas.Bytes.Reader

/-!
# Numbers with their least significant byte first
-/

namespace ClassAtlas

/-- The number that bytes stand for, the first one being the least significant. -/
def littleEndian : Bytes → Nat
  | [] => 0
  | b :: bs => b.toNat + 256 * littleEndian bs

/-- The number in a field of a record. -/
def fieldAt (record : Bytes) (offset size : Nat) : Nat :=
  littleEndian ((record.drop offset).take size)

/-- The first `n` bytes and the others, if there are as many. -/
def splitBytes? (n : Nat) (bytes : Bytes) : Option (Bytes × Bytes) :=
  let first := bytes.take n
  if first.length = n then some (first, bytes.drop n) else none

/-- The number in the first `size` bytes, and the bytes after it. -/
def littleNumber? (size : Nat) (bytes : Bytes) : Option (Nat × Bytes) := do
  let (field, rest) ← splitBytes? size bytes
  return (littleEndian field, rest)

end ClassAtlas
