import ClassAtlas.Compression.CodeTree
import ClassAtlas.Compression.Deflate
import ClassAtlas.Compression.Window

/-!
# Deflated data with a window of 64 KiB

Decompresses a deflate64 stream. It repeats at most 64 KiB from the last 64 KiB,
its codes are read leniently, and copies may reach before the output. If the
input ends early, the output up to there is what the stream holds.
-/

namespace ClassAtlas.Inflate64

open BitReader Deflate

/-- Why reading stops before the end of the last block. -/
inductive Stop where
  /-- The input ends after this output. -/
  | ended (out : Array UInt8)
  /-- It breaks a rule. -/
  | broken

/-- What a fault after this output comes to. -/
def Stop.ofFault (out : Array UInt8) : BitFault → Stop
  | .ended => .ended out
  | .broken => .broken

/-- The output so far, and what is left of the input. -/
abbrev Progress := Except Stop (Array UInt8 × Bits)

-- ---------------------------------------------------------------------------
-- Codes
-- ---------------------------------------------------------------------------

/-- How copies are coded in a block. -/
inductive Distances where
  /-- All have five bits. -/
  | fixed
  | coded (code : LenientCode)

def Distances.symbol : Distances → BitReader Nat
  | .fixed => highNumber 5
  | .coded code => code.symbol

/-- A code with these lengths. -/
def code (direct : Nat) (lengths : List Nat) : BitReader LenientCode :=
  match LenientCode.ofLengths? direct lengths with
  | some code => pure code
  | none => fail

/-- Lengths with zeros appended, so that there are `n`. -/
def pad (n : Nat) (lengths : List Nat) : List Nat :=
  lengths ++ List.replicate (n - lengths.length) 0

def literalCode (lengths : List Nat) : BitReader LenientCode :=
  code 9 (pad 288 lengths)

def distanceCode (lengths : List Nat) : BitReader LenientCode :=
  code 7 (pad 32 lengths)

/-- A symbol of the code for code lengths. Seven bits must follow one that repeats lengths. -/
def lengthSymbol (lengthCode : LenientCode) : BitReader Nat := do
  let s ← lengthCode.symbol
  if 16 ≤ s then lookAhead 7
  return s

/-- The codes that head a block. The end of the block must have one. -/
def dynamicCodes : BitReader (LenientCode × Distances) := do
  let literalCount := (← lowNumber 5) + 257
  let distanceCount := (← lowNumber 5) + 1
  let lengthCount := (← lowNumber 4) + 4
  let lengthCode ← code 7 (reorder (← times (lowNumber 3) lengthCount))
  let total := literalCount + distanceCount
  let lengths ← codeLengths (lengthSymbol lengthCode) total (total + 1) []
  require (lengths[256]? != some 0)
  let literals ← literalCode (lengths.take literalCount)
  let distances ← distanceCode (lengths.drop literalCount)
  return (literals, .coded distances)

/-- The codes of a block of this kind. -/
def blockCodes (kind : Nat) : BitReader (LenientCode × Distances) :=
  match kind with
  | 1 => do return (← literalCode fixedLengths, .fixed)
  | 2 => dynamicCodes
  | _ => fail

-- ---------------------------------------------------------------------------
-- Blocks
-- ---------------------------------------------------------------------------

/-- Length and distance of the copy that a symbol stands for. -/
def copyArguments (distances : Distances) (s : Nat) : BitReader (Nat × Nat) := do
  let length ← tableValue (Deflate.lengths ++ [(3, 16)]) (s - 257)
  let index ← distances.symbol
  let distance ← tableValue (Deflate.distances ++ [(32769, 14), (49153, 14)]) index
  return (length, distance)

/-- Decodes at most `fuel` symbols. -/
def compressed (literals : LenientCode) (distances : Distances) :
    Nat → Array UInt8 → Bits → Progress
  | 0, _, _ => .error .broken
  | fuel + 1, out, bits =>
    match literals.symbol bits with
    | .error fault => .error (.ofFault out fault)
    | .ok (s, bits) =>
      if s < 256 then compressed literals distances fuel (out.push s.toUInt8) bits
      else if s = 256 then .ok (out, bits)
      else
        match copyArguments distances s bits with
        | .error fault => .error (.ofFault out fault)
        | .ok ((length, distance), bits) =>
          compressed literals distances fuel (copyBack distance length out) bits

/-- Copies `n` bytes as they are. -/
def literalBytes : Nat → Array UInt8 → Bits → Progress
  | 0, out, bits => .ok (out, bits)
  | n + 1, out, bits =>
    match lowNumber 8 bits with
    | .ok (b, bits) => literalBytes n (out.push b.toUInt8) bits
    | .error fault => .error (.ofFault out fault)

def block (kind fuel : Nat) (out : Array UInt8) (bits : Bits) : Progress :=
  if kind = 0 then
    match storedSize (bits.drop (bits.length % 8)) with
    | .ok (size, bits) => literalBytes size out bits
    | .error fault => .error (.ofFault out fault)
  else
    match blockCodes kind bits with
    | .ok ((literals, distances), bits) => compressed literals distances fuel out bits
    | .error fault => .error (.ofFault out fault)

/-- Decodes at most `fuel` blocks. -/
def blocks : Nat → Array UInt8 → Bits → Except Stop (Array UInt8)
  | 0, _, _ => .error .broken
  | fuel + 1, out, bits =>
    match blockHeader bits with
    | .error fault => .error (.ofFault out fault)
    | .ok ((last, kind), bits) =>
      match block kind (bits.length + 1) out bits with
      | .error stop => .error stop
      | .ok (out, bits) => if last = 1 then .ok out else blocks fuel out bits

/-- What a stream holds. What follows the stream is ignored. -/
def inflate? (bytes : Bytes) : Option Bytes :=
  match blocks (bytes.length * 8 + 1) #[] (Bits.lowFirst bytes) with
  | .ok out | .error (.ended out) => some out.toList
  | .error .broken => none

end ClassAtlas.Inflate64
