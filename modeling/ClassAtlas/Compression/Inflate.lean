import ClassAtlas.Compression.Deflate
import ClassAtlas.Compression.Window

/-!
# Deflated data

Decompresses a deflate stream bit by bit. It repeats at most 258 bytes from the
last 32 KiB, and its codes must be proper.
-/

namespace ClassAtlas.Inflate

open BitReader Deflate

/-- The output so far, and what is left of the input. -/
abbrev Progress := Except BitFault (Array UInt8 × Bits)

-- ---------------------------------------------------------------------------
-- Compressed blocks
-- ---------------------------------------------------------------------------

/-- Length and distance of the copy that a symbol stands for. -/
def copyArguments (distances : PrefixCode) (s : Nat) : BitReader (Nat × Nat) := do
  let length ← tableValue (Deflate.lengths ++ [(258, 0)]) (s - 257)
  let index ← distances.symbol
  let distance ← tableValue Deflate.distances index
  return (length, distance)

/-- Decodes at most `fuel` symbols. -/
def compressed (literals distances : PrefixCode) : Nat → Array UInt8 → Bits → Progress
  | 0, _, _ => .error .broken
  | fuel + 1, out, bits =>
    match literals.symbol bits with
    | .error fault => .error fault
    | .ok (s, bits) =>
      if s < 256 then compressed literals distances fuel (out.push s.toUInt8) bits
      else if s = 256 then .ok (out, bits)
      else
        match copyArguments distances s bits with
        | .error fault => .error fault
        | .ok ((length, distance), bits) =>
          match copyBack? distance length out with
          | none => .error .broken
          | some out => compressed literals distances fuel out bits

-- ---------------------------------------------------------------------------
-- Codes of blocks
-- ---------------------------------------------------------------------------

/-- The code with these lengths. -/
def code (lengths : List Nat) : PrefixCode :=
  .ofLengths 15 lengths

def fixedDistanceLengths : List Nat :=
  List.replicate 32 5

/-- The code with these lengths, if it is of a proper kind. -/
def codeIf (isProper : PrefixCode → Bool) (lengths : List Nat) : BitReader PrefixCode := do
  let code := code lengths
  require (isProper code)
  return code

/-- The codes for literals and distances that head a block. Both may be incomplete with a single
code of one bit, and a block without copies needs no distances. The end of the block must have a
code. -/
def dynamicCodes : BitReader (PrefixCode × PrefixCode) := do
  let literalCount := (← lowNumber 5) + 257
  let distanceCount := (← lowNumber 5) + 1
  let lengthCount := (← lowNumber 4) + 4
  require (literalCount ≤ 286 && distanceCount ≤ 30)
  let lengthCode ← codeIf (·.isComplete) (reorder (← times (lowNumber 3) lengthCount))
  let total := literalCount + distanceCount
  let lengths ← codeLengths lengthCode.symbol total (total + 1) []
  require (lengths[256]? != some 0)
  let literals ← codeIf (fun c => c.isComplete || c.isSingle) (lengths.take literalCount)
  let distances ← codeIf (fun c => c.isComplete || c.isSingle || c.isEmpty)
    (lengths.drop literalCount)
  return (literals, distances)

-- ---------------------------------------------------------------------------
-- Blocks
-- ---------------------------------------------------------------------------

/-- Copies `n` bytes as they are. -/
def literalBytes : Nat → Array UInt8 → Bits → Progress
  | 0, out, bits => .ok (out, bits)
  | n + 1, out, bits =>
    match lowNumber 8 bits with
    | .ok (b, bits) => literalBytes n (out.push b.toUInt8) bits
    | .error fault => .error fault

/-- A block that is not compressed starts with the next byte. -/
def stored (out : Array UInt8) (bits : Bits) : Progress :=
  match storedSize (bits.drop (bits.length % 8)) with
  | .ok (size, bits) => literalBytes size out bits
  | .error fault => .error fault

def block (kind fuel : Nat) (out : Array UInt8) (bits : Bits) : Progress :=
  match kind with
  | 0 => stored out bits
  | 1 => compressed (code fixedLengths) (code fixedDistanceLengths) fuel out bits
  | 2 =>
    match dynamicCodes bits with
    | .ok ((literals, distances), bits) => compressed literals distances fuel out bits
    | .error fault => .error fault
  | _ => .error .broken

/-- Decodes at most `fuel` blocks. -/
def blocks : Nat → Array UInt8 → Bits → Except BitFault (Array UInt8)
  | 0, _, _ => .error .broken
  | fuel + 1, out, bits =>
    match blockHeader bits with
    | .error fault => .error fault
    | .ok ((last, kind), bits) =>
      match block kind (bits.length + 1) out bits with
      | .error fault => .error fault
      | .ok (out, bits) => if last = 1 then .ok out else blocks fuel out bits

/-- What a stream holds. What follows the stream is ignored. -/
def inflate? (bytes : Bytes) : Option Bytes :=
  (blocks (bytes.length * 8 + 1) #[] (Bits.lowFirst bytes)).toOption.map (·.toList)

end ClassAtlas.Inflate
