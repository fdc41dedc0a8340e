import ClassAtlas.Bytes.LittleEndian
import ClassAtlas.Compression.StateCode

/-!
# Codes for literals

Literals have a prefix code that is given by the weights of its symbols: the
higher the weight the shorter the code, and no code for weight zero. The weight of
the last symbol is left out, since it makes the code complete.
-/

namespace ClassAtlas.Zstandard

-- ---------------------------------------------------------------------------
-- Weights
-- ---------------------------------------------------------------------------

/-- `n` weights of four bits each. -/
def plainWeights? (n : Nat) (bytes : Bytes) : Option (List Nat × Bytes) := do
  let (halves, rest) ← splitBytes? ((n + 1) / 2) bytes
  return ((halves.flatMap fun b => [b.toNat / 16, b.toNat % 16]).take n, rest)

/-- The next `n` bits as a number, with zeros for missing bits, and whether there were enough. -/
def readPadded (n : Nat) (bits : Bits) : Nat × Bool × Bits :=
  (BitReader.peek n 0 bits, (bits.take n).length = n, bits.drop n)

/-- Weights from two states that take turns, until the bits do not suffice to go on from a state;
then the other one gives the last weight. There are at most `room`. -/
def codedWeights (code : StateCode) : Nat → Nat → Nat → List Nat → Bits → Option (List Nat)
  | 0, _, _, _, _ | 1, _, _, _, _ => none
  | room + 2, state, other, weights, bits =>
    let slot := code.slot state
    let (number, isEnough, bits) := readPadded slot.bits bits
    if isEnough then
      codedWeights code (room + 1) other (slot.base + number) (weights ++ [slot.symbol]) bits
    else some (weights ++ [slot.symbol, (code.slot other).symbol])

/-- All weights coded in these bytes. -/
def stateWeights? (bytes : Bytes) : Option (List Nat) := do
  let (distribution, rest) ← Distribution.read? 6 256 bytes
  let bits ← Bits.backward? rest
  let code := distribution.code
  let (state, isEnough, bits) := readPadded code.accuracy bits
  let (other, isEnough', bits) := readPadded code.accuracy bits
  if isEnough && isEnough' then codedWeights code 255 state other [] bits
  else some [(code.slot state).symbol, (code.slot other).symbol]

/-- The weights at the front of bytes but for the last, and the bytes after them. -/
def weights? : Bytes → Option (List Nat × Bytes)
  | [] => none
  | header :: rest =>
    if 128 ≤ header then plainWeights? (header.toNat - 127) rest
    else do
      let (coded, rest) ← splitBytes? header.toNat rest
      return (← stateWeights? coded, rest)

-- ---------------------------------------------------------------------------
-- Codes
-- ---------------------------------------------------------------------------

/-- A symbol and the length of its code. -/
structure LiteralSlot where
  symbol : UInt8
  bits : Nat
deriving Inhabited

/-- A slot for everything that the next `width` bits can be. -/
structure LiteralCode where
  width : Nat
  slots : Array LiteralSlot

/-- How many slots a symbol of this weight gets. -/
def slotCount : Nat → Nat
  | 0 => 0
  | weight + 1 => Nat.pow 2 weight

/-- The weight that makes a code of this many slots complete, if one does. -/
def lastWeight? (count width : Nat) : Option Nat :=
  let missing := Nat.pow 2 width - count
  if missing = Nat.pow 2 missing.log2 then some (missing.log2 + 1) else none

/-- The slots of the symbols with this weight. -/
def slotsOfWeight (width : Nat) (weights : List Nat) (weight : Nat) : List LiteralSlot :=
  weights.zipIdx.flatMap fun (w, s) =>
    if w = weight then List.replicate (slotCount w) ⟨s.toUInt8, width + 1 - w⟩ else []

/-- The widest code. -/
def maxWidth : Nat := 12

/-- The code that these weights and the one left out give. The longest codes come first; there
must be some, and each must have a partner. -/
def LiteralCode.ofWeights? (weights : List Nat) : Option LiteralCode := do
  let count := (weights.map slotCount).foldr (· + ·) 0
  let width := count.log2 + 1
  if weights.any (maxWidth < ·) || count == 0 || maxWidth < width then none
  let weights := weights ++ [← lastWeight? count width]
  let longest := weights.count 1
  if longest < 2 || longest % 2 == 1 || 256 < weights.length then none
  return ⟨width, ((List.range width).flatMap fun w =>
    slotsOfWeight width weights (w + 1)).toArray⟩

/-- The code at the front of bytes, and the bytes after it. -/
def LiteralCode.read? (bytes : Bytes) : Option (LiteralCode × Bytes) := do
  let (weights, rest) ← weights? bytes
  return (← LiteralCode.ofWeights? weights, rest)

-- ---------------------------------------------------------------------------
-- Streams
-- ---------------------------------------------------------------------------

namespace LiteralCode

/-- The next `n` literals. All bits must be used. -/
def literals (code : LiteralCode) : Nat → Array UInt8 → Bits → Option (Array UInt8)
  | 0, out, bits => if bits.isEmpty then some out else none
  | n + 1, out, bits =>
    let slot := code.slots.getD (BitReader.peek code.width 0 bits) default
    match BitReader.skip slot.bits bits with
    | .ok (_, bits) => literals code n (out.push slot.symbol) bits
    | .error _ => none

/-- Appends the `n` literals of a stream. -/
def stream? (code : LiteralCode) (n : Nat) (bytes : Bytes) (out : Array UInt8) :
    Option (Array UInt8) := do
  code.literals n out (← Bits.backward? bytes)

/-- The `n` literals of four streams. The sizes of the first three stand in front. -/
def fourStreams? (code : LiteralCode) (n : Nat) (bytes : Bytes) : Option (Array UInt8) := do
  let (size₁, bytes) ← littleNumber? 2 bytes
  let (size₂, bytes) ← littleNumber? 2 bytes
  let (size₃, bytes) ← littleNumber? 2 bytes
  let (stream₁, bytes) ← splitBytes? size₁ bytes
  let (stream₂, bytes) ← splitBytes? size₂ bytes
  let (stream₃, stream₄) ← splitBytes? size₃ bytes
  let quarter := (n + 3) / 4
  if n < 3 * quarter then none
  let out ← code.stream? quarter stream₁ #[]
  let out ← code.stream? quarter stream₂ out
  let out ← code.stream? quarter stream₃ out
  code.stream? (n - 3 * quarter) stream₄ out

end LiteralCode

end ClassAtlas.Zstandard
