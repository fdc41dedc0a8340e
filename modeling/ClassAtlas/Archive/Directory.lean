import ClassAtlas.Archive.Header

/-!
# Directories of archives

An archive ends in a record that leads to the directory of its entries. The
record is searched from the end, so other bytes may follow it. Offsets count
from the start of the archive, and other bytes may stand before that: where a
record is found that an offset leads to, at or after the place that the offset
names, tells how many. An archive with large numbers has a second end record,
found through a locator right before the first one.
-/

namespace ClassAtlas.Archive

/-- Where a directory is. -/
structure Region where
  /-- How many bytes stand before the archive. -/
  before : Nat
  /-- Where its first header is. -/
  start : Nat
  /-- How many headers it has. -/
  count : Nat

-- ---------------------------------------------------------------------------
-- Small archives
-- ---------------------------------------------------------------------------

/-- The region that the end record at `position` leads to. Only the first header of the directory
tells what stands before the archive; without entries the directory ends at the end record. -/
def region? (image : Image) (position : Nat) (record : Bytes) : Option Region :=
  let count := fieldAt record 8 2
  let offset := fieldAt record 16 4
  if fieldAt record 10 2 = 0 then some ⟨position - offset, offset + (position - offset), count⟩
  else
    match placesBetween centralHeader image offset position with
    | [] => none
    | first :: _ => some ⟨first - offset, first, count⟩

-- ---------------------------------------------------------------------------
-- Large archives
-- ---------------------------------------------------------------------------

/-- Whether an end record has no room for its numbers, so that there may be a second one. -/
def overflows (record : Bytes) : Bool :=
  fieldAt record 10 2 == 0xFFFF || fieldAt record 16 4 == elsewhere

/-- The locator right before the end record at `position`. -/
def locatorBefore? (image : Image) (position : Nat) : Option Bytes :=
  if locator.size ≤ position then record? locator image (position - locator.size) else none

/-- The second end record at `position`, if it reaches up to the locator at `limit`, agrees with
it on the disk of the directory, and leaves room for the directory in front of it. -/
def wideEndRecordAt? (image : Image) (locatorRecord : Bytes) (limit position : Nat) :
    Option Bytes := do
  let record ← record? wideEndRecord image position
  if position + 12 + fieldAt record 4 8 = limit ∧ wideEndRecord.size ≤ limit - position ∧
      fieldAt record 20 4 = fieldAt locatorRecord 4 4 ∧
      fieldAt record 32 8 * centralHeader.size + fieldAt record 48 8 ≤ position then
    return record
  else none

/-- The region that a second end record leads to, which must be on its own disk. -/
def wideRegion? (before : Nat) (record : Bytes) : Option Region :=
  if fieldAt record 32 8 < fieldAt record 24 8 ∨ fieldAt record 16 4 ≠ fieldAt record 20 4 then none
  else some ⟨before, fieldAt record 48 8 + before, fieldAt record 32 8⟩

/-- The region that a locator at `limit` leads to. -/
def locatedRegion? (image : Image) (locatorRecord : Bytes) (limit : Nat) : Option Region := do
  let offset := fieldAt locatorRecord 8 8
  if 1 < fieldAt locatorRecord 16 4 then none
  let (position, record) ← (placesBetween wideEndRecord image offset limit).findSome?
    fun position => (wideEndRecordAt? image locatorRecord limit position).map (position, ·)
  wideRegion? (position - offset) record

-- ---------------------------------------------------------------------------
-- Directories
-- ---------------------------------------------------------------------------

structure Directory where
  /-- How many bytes stand before the archive. -/
  before : Nat
  headers : List Header

/-- Offsets have eight bytes. -/
def maxOffset : Nat := 0xFFFFFFFFFFFFFFFF

def Region.directory? (image : Image) (r : Region) : Option Directory := do
  let headers ← headers? image r.count r.start
  if headers.all fun h => r.before + h.offset ≤ maxOffset then return ⟨r.before, headers⟩
  else none

/-- The directory that the end record at `position` leads to. -/
def directoryAt? (image : Image) (position : Nat) : Option Directory := do
  let record ← record? endRecord image position
  if image.size < position + endRecord.size + fieldAt record 20 2 then none
  let region ←
    match if overflows record then locatorBefore? image position else none with
    | some locatorRecord => locatedRegion? image locatorRecord (position - locator.size)
    | none =>
      if fieldAt record 4 2 = fieldAt record 6 2 then region? image position record else none
  region.directory? image

/-- The directory of the last end record that leads to one. -/
def directory? (image : Image) : Option Directory :=
  (places endRecord image).reverse.findSome? (directoryAt? image)

end ClassAtlas.Archive
