import ClassAtlas.Checksum.Crc32
import ClassAtlas.Archive.ExtraField
import ClassAtlas.Text.Codepage
import ClassAtlas.Text.Utf8

/-!
# Headers of entries

What the directory of an archive says of one entry. The fixed fields come
first, and the extra fields then correct them one after the other.
-/

namespace ClassAtlas.Archive

structure Header where
  /-- The name as it is stored. -/
  rawName : Bytes
  name : String
  comment : String
  /-- Whether a password is needed. -/
  encrypted : Bool
  /-- The code of the method of compression. -/
  method : Nat
  crc : UInt32
  size : Nat
  compressedSize : Nat
  /-- Where the entry's own header is, from the start of the archive. -/
  offset : Nat

/-- A text in a header: in UTF-8 if the header says so, else in the code page of archives. -/
def headerText (utf8 : Bool) (bytes : Bytes) : String :=
  if utf8 then Text.Utf8.decodeLossy bytes else Text.Codepage.decode bytes

-- ---------------------------------------------------------------------------
-- Extra fields
-- ---------------------------------------------------------------------------

/-- What a field of four bytes holds if its number is found elsewhere. -/
def elsewhere : Nat := 0xFFFFFFFF

/-- The number that takes the place of `number`, and the content behind it. -/
def wideNumber? (all : Bool) (number : Nat) (content : Bytes) : Option (Nat × Bytes) :=
  if all || number == elsewhere then
    if 8 ≤ content.length then some (fieldAt content 0 8, content.drop 8) else none
  else some (number, content)

/-- The text of a field that holds a checksum of what it replaces, and UTF-8. -/
def unicodeText? (replaced content : Bytes) : Option (Bytes × String) :=
  if 5 ≤ content.length ∧ fieldAt content 1 4 = (Crc32.checksum replaced).toNat then
    (Text.Utf8.decode? (content.drop 5)).map ((content.drop 5), ·)
  else none

namespace Header

/-- The large numbers come in the order size, compressed size and offset: those that are found
elsewhere, or all of them if there is room for three. -/
def readWideSizes? (h : Header) (content : Bytes) : Option Header := do
  let all := decide (24 ≤ content.length)
  let (size, content) ← wideNumber? all h.size content
  let (compressedSize, content) ← wideNumber? all h.compressedSize content
  let (offset, _) ← wideNumber? all h.offset content
  return { h with size, compressedSize, offset }

/-- The header corrected by an extra field. -/
def read? (h : Header) (field : ExtraField) : Option Header :=
  match field.kind with
  | .wideSizes => h.readWideSizes? field.content
  | .fileTimes => if isFileTimes field.content then some h else none
  | .timestamps => if isTimestamps field.content then some h else none
  | .unicodeComment =>
    (unicodeText? h.comment.toUTF8.data.toList field.content).map fun (_, comment) =>
      { h with comment }
  | .unicodeName =>
    (unicodeText? h.rawName field.content).map fun (rawName, name) => { h with rawName, name }
  | .encryption =>
    (encryptedMethod? field.content).map fun method => { h with method, encrypted := true }
  | .other => some h

end Header

-- ---------------------------------------------------------------------------
-- Reading
-- ---------------------------------------------------------------------------

/-- The code that stands for encrypted content, which an extra field must then describe. -/
def encryptedCode : Nat := 99

/-- The header as its fixed fields have it. -/
def fixedHeader (record name comment : Bytes) : Header :=
  let flags := fieldAt record 8 2
  let utf8 := flags.testBit 11
  ⟨name, headerText utf8 name, headerText utf8 comment, flags.testBit 0, fieldAt record 10 2,
    UInt32.ofNat (fieldAt record 16 4), fieldAt record 24 4, fieldAt record 20 4,
    fieldAt record 42 4⟩

/-- The header at an offset, and where the next one is. -/
def header? (image : Image) (offset : Nat) : Option (Header × Nat) := do
  let record ← record? centralHeader image offset
  let nameSize := fieldAt record 28 2
  let extraSize := fieldAt record 30 2
  let commentSize := fieldAt record 32 2
  let extraStart := offset + centralHeader.size + nameSize
  let name ← slice? image (offset + centralHeader.size) nameSize
  let extra ← slice? image extraStart extraSize
  let comment ← slice? image (extraStart + extraSize) commentSize
  let fields ← extraFields? extra
  let header ← fields.foldlM Header.read? (fixedHeader record name comment)
  if header.method = encryptedCode ∧ fields.all (·.kind != .encryption) then none
  return (header, extraStart + extraSize + commentSize)

/-- The next `n` headers. -/
def headers? (image : Image) : Nat → Nat → Option (List Header)
  | 0, _ => some []
  | n + 1, offset => do
    let (header, next) ← header? image offset
    let headers ← headers? image n next
    return header :: headers

end ClassAtlas.Archive
