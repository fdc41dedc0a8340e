import ClassAtlas.Checksum.Crc32
import ClassAtlas.Checksum.Crc64
import ClassAtlas.Checksum.Sha256
import ClassAtlas.Compression.Filter
import ClassAtlas.Compression.Lzma2

/-!
# The xz container

Decompresses an xz stream: a header, blocks with a check each, an index of the
blocks, and a footer that repeats the header.
-/

namespace ClassAtlas.Xz

-- ---------------------------------------------------------------------------
-- Checks
-- ---------------------------------------------------------------------------

/-- How blocks are checked. -/
inductive Check where
  | none
  | crc32
  | crc64
  | sha256
deriving DecidableEq

def Check.ofByte? (b : UInt8) : Option Check :=
  match b.toNat with
  | 0 => some .none
  | 1 => some .crc32
  | 4 => some .crc64
  | 10 => some .sha256
  | _ => Option.none

/-- A number in `n` bytes, the least significant first. -/
def littleBytes (n number : Nat) : Bytes :=
  (List.range n).map fun i => (number / Nat.pow 256 i).toUInt8

def crcBytes (bytes : Bytes) : Bytes :=
  littleBytes 4 (Crc32.checksum bytes).toNat

/-- The check of some content. -/
def Check.bytes (content : Bytes) : Check → Bytes
  | .none => []
  | .crc32 => crcBytes content
  | .crc64 => littleBytes 8 (Crc64.checksum content).toNat
  | .sha256 => Sha256.checksum content

/-- The bytes after these ones, which must stand in front. -/
def expect? (expected bytes : Bytes) : Option Bytes :=
  if expected.isPrefixOf bytes then some (bytes.drop expected.length) else none

-- ---------------------------------------------------------------------------
-- Numbers
-- ---------------------------------------------------------------------------

/-- A number in at most `n` bytes of seven bits, the lowest first; all but the last are marked, and
no zero is added. -/
def number? : Nat → Bytes → Option (Nat × Bytes)
  | 0, _ | _, [] => none
  | n + 1, b :: rest =>
    if b < 128 then some (b.toNat, rest)
    else
      match number? n rest with
      | some (high, rest') => if high = 0 then none else some (b.toNat - 128 + 128 * high, rest')
      | none => none

/-- The longest number. -/
def maxNumberSize : Nat := 9

/-- `n` numbers. -/
def numbers? : Nat → Bytes → Option (List Nat × Bytes)
  | 0, bytes => some ([], bytes)
  | n + 1, bytes => do
    let (first, rest) ← number? maxNumberSize bytes
    let (others, rest) ← numbers? n rest
    return (first :: others, rest)

-- ---------------------------------------------------------------------------
-- Filters
-- ---------------------------------------------------------------------------

/-- An architecture whose machine code can be filtered. -/
inductive Architecture where
  | x86
  | power
  | itanium
  | arm
  | thumb
  | sparc
  | arm64
deriving DecidableEq

inductive BlockFilter where
  | differences (distance : Nat)
  | machineCode (a : Architecture) (start : UInt32)

/-- Positions are multiples of this. -/
def Architecture.alignment : Architecture → Nat
  | .x86 => 1
  | .thumb => 2
  | .itanium => 16
  | .power | .arm | .sparc | .arm64 => 4

/-- Replaces the groups of content that starts at a position. -/
def restoreGroups (start : UInt32) (content : Array UInt8) (size : Nat)
    (replace : UInt32 → Bytes → Bytes) : Array UInt8 :=
  Filter.groups size replace (content.size / size) start content.toList #[]

/-- Replaces the addresses in machine code that starts at a position. -/
def Architecture.restore (start : UInt32) (content : Array UInt8) : Architecture → Array UInt8
  | .x86 => Filter.x86 start content.size 0 0 0 content
  | .thumb => Filter.thumb content.size start content.toList #[]
  | .power => restoreGroups start content 4 Filter.power
  | .arm => restoreGroups start content 4 Filter.arm
  | .sparc => restoreGroups start content 4 Filter.sparc
  | .arm64 => restoreGroups start content 4 Filter.arm64
  | .itanium => restoreGroups start content 16 Filter.itanium

/-- Undoes a filter. -/
def BlockFilter.restore (content : Array UInt8) : BlockFilter → Array UInt8
  | .differences distance => Filter.sums distance content
  | .machineCode a start => a.restore start content

def Architecture.ofCode? (code : Nat) : Option Architecture :=
  match code with
  | 4 => some .x86
  | 5 => some .power
  | 6 => some .itanium
  | 7 => some .arm
  | 8 => some .thumb
  | 9 => some .sparc
  | 10 => some .arm64
  | _ => none

/-- The filter with this code and these properties. -/
def BlockFilter.ofCode? (code : Nat) (properties : Bytes) : Option BlockFilter :=
  match code, properties with
  | 3, [distance] => some (.differences (distance.toNat + 1))
  | code, [] => (Architecture.ofCode? code).map (.machineCode · 0)
  | code, [_, _, _, _] => do
    let a ← Architecture.ofCode? code
    let start := littleEndian properties
    if start % a.alignment = 0 then return .machineCode a (UInt32.ofNat start) else none
  | _, _ => none

/-- A filter's code and properties, and the bytes after them. -/
def filterField? (bytes : Bytes) : Option ((Nat × Bytes) × Bytes) := do
  let (code, rest) ← number? maxNumberSize bytes
  let (size, rest) ← number? maxNumberSize rest
  let (properties, rest) ← splitBytes? size rest
  return ((code, properties), rest)

/-- `n` filters, but for the last, and the size of the dictionary of the last, which unpacks. -/
def filters? : Nat → Bytes → Option ((List BlockFilter × Nat) × Bytes)
  | 0, _ => none
  | 1, bytes => do
    match ← filterField? bytes with
    | ((0x21, [size]), rest) =>
      let n := size.toNat
      if n < 40 then return (([], (2 + n % 2) * Nat.pow 2 (n / 2 + 11)), rest)
      else if n = 40 then return (([], Nat.pow 2 32), rest)
      else none
    | _ => none
  | n + 1, bytes => do
    let ((code, properties), rest) ← filterField? bytes
    let filter ← BlockFilter.ofCode? code properties
    let ((filters, size), rest) ← filters? n rest
    return ((filter :: filters, size), rest)

-- ---------------------------------------------------------------------------
-- Blocks
-- ---------------------------------------------------------------------------

/-- The filters in a block's header. It may give sizes before them, and is filled with zeros. -/
def headerFilters? : Bytes → Option (List BlockFilter × Nat)
  | [] => none
  | flags :: bytes => do
    if flags &&& 0x3C ≠ 0 then none
    let sizes := (if flags &&& 0x40 = 0 then 0 else 1) + if flags &&& 0x80 = 0 then 0 else 1
    let (_, bytes) ← numbers? sizes bytes
    let (filters, padding) ← filters? (flags.toNat % 4 + 1) bytes
    if padding.all (· == 0) then return filters else none

/-- The header of a block whose first byte, its size, is not zero. -/
def blockHeader? (size : UInt8) (rest : Bytes) : Option ((List BlockFilter × Nat) × Bytes) := do
  let (fields, rest) ← splitBytes? (4 * size.toNat - 1) rest
  let rest ← expect? (crcBytes (size :: fields)) rest
  return (← headerFilters? fields, rest)

/-- Zeros that fill up to a multiple of four. -/
def padding (size : Nat) : Bytes :=
  List.replicate ((4 - size % 4) % 4) 0

/-- The content of a block, and the bytes after it. -/
def block? (check : Check) (size : UInt8) (rest : Bytes) : Option (Array UInt8 × Bytes) := do
  let ((filters, dictionary), data) ← blockHeader? size rest
  let (unpacked, rest) ← Lzma2.decompress? dictionary data
  let content := filters.foldr (fun filter content => filter.restore content) unpacked
  let rest ← expect? (padding (data.length - rest.length)) rest
  let rest ← expect? (check.bytes content.toList) rest
  return (content, rest)

-- ---------------------------------------------------------------------------
-- Streams
-- ---------------------------------------------------------------------------

def headerMark : Bytes := [0xFD, 0x37, 0x7A, 0x58, 0x5A, 0]
def footerMark : Bytes := [0x59, 0x5A]

/-- The index of `count` blocks after its first byte, and the bytes after it. -/
def afterIndex? (count : Nat) (bytes : Bytes) : Option (Nat × Bytes) := do
  let (stated, rest) ← number? maxNumberSize bytes
  if stated ≠ count then none
  let (_, rest) ← numbers? (2 * count) rest
  let rest ← expect? (padding (1 + bytes.length - rest.length)) rest
  let size := 1 + bytes.length - rest.length
  let rest ← expect? (crcBytes (0 :: bytes.take (size - 1))) rest
  return (size + 4, rest)

/-- Whether a footer with the size of the index and the flags of the header stands in front. -/
def hasFooter (flags : Bytes) (indexSize : Nat) (bytes : Bytes) : Bool :=
  let fields := littleBytes 4 (indexSize / 4 - 1) ++ flags
  (crcBytes fields ++ fields ++ footerMark).isPrefixOf bytes

/-- At most `fuel` blocks up to the index. -/
def blocks? (check : Check) (flags : Bytes) :
    Nat → Nat → Array UInt8 → Bytes → Option (Array UInt8)
  | 0, _, _, _ => none
  | _, _, _, [] => none
  | fuel + 1, count, out, size :: rest =>
    if size = 0 then
      match afterIndex? count rest with
      | some (indexSize, rest) => if hasFooter flags indexSize rest then some out else none
      | none => none
    else
      match block? check size rest with
      | some (content, rest) => blocks? check flags fuel (count + 1) (out ++ content) rest
      | none => none

/-- What a stream holds. What follows the stream is ignored. -/
def decompress? (bytes : Bytes) : Option Bytes := do
  match ← expect? headerMark bytes with
  | 0 :: kind :: rest =>
    let check ← Check.ofByte? kind
    let rest ← expect? (crcBytes [0, kind]) rest
    let out ← blocks? check [0, kind] (rest.length + 1) 0 #[] rest
    return out.toList
  | _ => none

end ClassAtlas.Xz
