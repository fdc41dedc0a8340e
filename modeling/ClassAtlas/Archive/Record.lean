import ClassAtlas.Bytes.LittleEndian

/-!
# Records of archives

An archive is made of records. Each opens with a signature, and its fields hold
numbers with their least significant byte first.
-/

namespace ClassAtlas.Archive

/-- All bytes of an archive. -/
abbrev Image := Array UInt8

/-- The `size` bytes from `offset` on, if there are as many. -/
def slice? (image : Image) (offset size : Nat) : Option Bytes :=
  if offset + size ≤ image.size then some (image.extract offset (offset + size)).toList else none

-- ---------------------------------------------------------------------------
-- Signatures
-- ---------------------------------------------------------------------------

/-- A kind of record: the bytes that open it, and the size of the fields that it always has. -/
structure RecordKind where
  signature : Bytes
  size : Nat

/-- The header of an entry in front of its content. -/
def localHeader : RecordKind := ⟨[0x50, 0x4B, 3, 4], 30⟩

/-- The header of an entry in the directory. -/
def centralHeader : RecordKind := ⟨[0x50, 0x4B, 1, 2], 46⟩

/-- The record at the end that leads to the directory. -/
def endRecord : RecordKind := ⟨[0x50, 0x4B, 5, 6], 22⟩

/-- The same with room for large numbers. -/
def wideEndRecord : RecordKind := ⟨[0x50, 0x4B, 6, 6], 56⟩

/-- The record that leads to the one before. -/
def locator : RecordKind := ⟨[0x50, 0x4B, 6, 7], 20⟩

/-- The record of this kind at this offset. -/
def record? (kind : RecordKind) (image : Image) (offset : Nat) : Option Bytes :=
  match slice? image offset kind.size with
  | some record => if kind.signature.isPrefixOf record then some record else none
  | none => none

/-- Where records of this kind may start, the first of the bytes being number `i`. -/
def placesFrom (kind : RecordKind) : Nat → Bytes → List Nat
  | _, [] => []
  | i, b :: bs =>
    if kind.signature.isPrefixOf (b :: bs) then i :: placesFrom kind (i + 1) bs
    else placesFrom kind (i + 1) bs

def places (kind : RecordKind) (image : Image) : List Nat :=
  placesFrom kind 0 image.toList

/-- The places from `low` on and below `high`. -/
def placesBetween (kind : RecordKind) (image : Image) (low high : Nat) : List Nat :=
  (places kind image).filter fun i => low ≤ i && i < high

end ClassAtlas.Archive
