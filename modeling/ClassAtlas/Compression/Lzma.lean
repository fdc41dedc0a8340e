import ClassAtlas.Bytes.LittleEndian
import ClassAtlas.Compression.RangeCoder
import ClassAtlas.Compression.Window

/-!
# Range-coded copies

Decompresses an LZMA stream: literals and copies from a dictionary, coded digit
by digit in contexts that depend on what came before.
-/

namespace ClassAtlas.Lzma

open RangeCoder

-- ---------------------------------------------------------------------------
-- Contexts
-- ---------------------------------------------------------------------------

/-- How many high bits of the last byte, low bits of the position for literals, and low bits of
the position otherwise choose the context. -/
structure Parameters where
  lastBits : Nat
  literalBits : Nat
  positionBits : Nat

def Parameters.ofByte? (b : UInt8) : Option Parameters :=
  if b < 225 then some ⟨b.toNat % 9, b.toNat / 9 % 5, b.toNat / 45⟩ else none

def isMatch (phase position : Nat) : Nat := 16 * phase + position
def isRepeat (phase : Nat) : Nat := 192 + phase
def isOlder (age phase : Nat) : Nat := 204 + 12 * age + phase
def isLong (phase position : Nat) : Nat := 240 + 16 * phase + position
def slotContext (length : Nat) : Nat := 432 + 64 * length
def smallDistanceContext : Nat := 688
def alignContext : Nat := 816
def matchLength : Nat := 832
def repeatLength : Nat := 1346
def literalContext : Nat := 1860

/-- The contexts at the start: both digits are equally likely in all of them. -/
def Parameters.shares (p : Parameters) : Array UInt32 :=
  Array.replicate (literalContext + 768 * Nat.pow 2 (p.lastBits + p.literalBits)) 1024

-- ---------------------------------------------------------------------------
-- Literals and copies
-- ---------------------------------------------------------------------------

/-- What the operations before the next one were, and the four distances used last. -/
structure State where
  phase : Nat
  distance : Nat
  older : Nat
  older₂ : Nat
  older₃ : Nat

inductive Operation where
  | literal (b : UInt8)
  | copy (length : Nat)

/-- A byte of eight digits. -/
def plainLiteral (context : Nat) : Decode UInt8 := do
  return (← number context 8).toUInt8

/-- Goes on with a byte of which `digits` are known, as long as they are those of the byte that a
copy would give. -/
def matchedFrom (context expected : Nat) : Nat → Nat → Decode Nat
  | 0, digits => pure digits
  | n + 1, digits => do
    let e := expected / Nat.pow 2 n % 2
    let d ← digit (context + 256 * (1 + e) + digits)
    if d = e then matchedFrom context expected n (2 * digits + d)
    else digitsFrom context n (2 * digits + d)

def matchedLiteral (context : Nat) (expected : UInt8) : Decode UInt8 := do
  return ((← matchedFrom context expected.toNat 8 1) - 256).toUInt8

def literalPhase (phase : Nat) : Nat :=
  if phase < 4 then 0 else if phase < 10 then phase - 3 else phase - 6

/-- The length of a copy, from two on. -/
def copyLength (context position : Nat) : Decode Nat := do
  if (← digit context) = 0 then return 2 + (← number (context + 2 + 8 * position) 3)
  else if (← digit (context + 1)) = 0 then
    return 10 + (← number (context + 130 + 8 * position) 3)
  else return 18 + (← number (context + 258) 8)

/-- The distance of a copy of this length. -/
def copyDistance (length : Nat) : Decode Nat := do
  let slot ← number (slotContext (min (length - 2) 3)) 6
  if slot < 4 then return slot + 1
  else
    let width := slot / 2 - 1
    let base := (2 + slot % 2) * Nat.pow 2 width
    if slot < 14 then
      return base + (← lowNumber (smallDistanceContext + base - slot) width) + 1
    else
      let high ← evenNumber (width - 4) 0
      return base + 16 * high + (← lowNumber alignContext 4) + 1

/-- Whether one of the distances used last is used again, and if so for one byte only. -/
def repetition (s : State) (position : Nat) : Decode (State × Bool) := do
  if (← digit (isOlder 0 s.phase)) = 0 then
    return (s, (← digit (isLong s.phase position)) == 0)
  else if (← digit (isOlder 1 s.phase)) = 0 then
    return ({ s with distance := s.older, older := s.distance }, false)
  else if (← digit (isOlder 2 s.phase)) = 0 then
    return ({ s with distance := s.older₂, older := s.distance, older₂ := s.older }, false)
  else
    return ({ s with
      distance := s.older₃, older := s.distance, older₂ := s.older, older₃ := s.older₂ }, false)

/-- The copy that comes next. -/
def copy (s : State) (position : Nat) : Decode (Operation × State) := do
  if (← digit (isRepeat s.phase)) = 1 then
    let (t, short) ← repetition s position
    if short then return (.copy 1, { t with phase := if s.phase < 7 then 9 else 11 })
    else
      let length ← copyLength repeatLength position
      return (.copy length, { t with phase := if s.phase < 7 then 8 else 11 })
  else
    let length ← copyLength matchLength position
    let distance ← copyDistance length
    return (.copy length, ⟨if s.phase < 7 then 7 else 10, distance, s.distance, s.older, s.older₂⟩)

/-- What comes next after this output. -/
def operation (p : Parameters) (s : State) (out : Array UInt8) : Decode (Operation × State) := do
  let position := out.size % Nat.pow 2 p.positionBits
  if (← digit (isMatch s.phase position)) = 1 then copy s position
  else
    let last := (out.back?.getD 0).toNat
    let low := out.size % Nat.pow 2 p.literalBits
    let context := literalContext + 768 *
      (low * Nat.pow 2 p.lastBits + last / Nat.pow 2 (8 - p.lastBits))
    let b ←
      if s.phase < 7 then plainLiteral context
      else matchedLiteral context (out.getD (out.size - s.distance) 0)
    return (.literal b, { s with phase := literalPhase s.phase })

-- ---------------------------------------------------------------------------
-- Streams
-- ---------------------------------------------------------------------------

/-- What a coder has learned and remembers. -/
structure Model where
  parameters : Parameters
  state : State
  shares : Array UInt32

/-- The model at the start. -/
def Parameters.model (p : Parameters) : Model :=
  ⟨p, ⟨0, 1, 1, 1, 1⟩, p.shares⟩

/-- Where a stream ends. -/
inductive Extent where
  /-- With this much output. -/
  | size (n : Nat)
  /-- At a mark. -/
  | marked

/-- The distance that marks the end of a stream. -/
def endDistance : Nat := 0x100000000

/-- Whether a stream ends with this output. -/
def Extent.isReached (out : Array UInt8) : Extent → Bool
  | .size n => n ≤ out.size
  | .marked => false

def Extent.isMarked : Extent → Bool
  | .size _ => false
  | .marked => true

/-- Whether there is room for a copy of this length. -/
def Extent.hasRoom (out : Array UInt8) (length : Nat) : Extent → Bool
  | .size n => out.size + length ≤ n
  | .marked => true

/-- Goes on to the end of a stream, with at most `fuel` operations. Copies reach back no farther
than the dictionary. -/
def run (p : Parameters) (dictionary : Nat) (extent : Extent) :
    Nat → State → Array UInt8 → Coder → Option (State × Array UInt8 × Coder)
  | 0, _, _, _ => none
  | fuel + 1, s, out, c =>
    if extent.isReached out then some (s, out, c)
    else
      match operation p s out c with
      | ((.literal b, s), c) => run p dictionary extent fuel s (out.push b) c
      | ((.copy length, s), c) =>
        if extent.isMarked && s.distance == endDistance then some (s, out, c)
        else if extent.hasRoom out length && s.distance ≤ dictionary then
          match copyBack? s.distance length out with
          | none => none
          | some out => run p dictionary extent fuel s out c
        else none

/-- Goes on from a model and an output with coded input. -/
def Model.decode? (m : Model) (dictionary : Nat) (extent : Extent) (fuel : Nat)
    (out : Array UInt8) (input : Bytes) : Option (State × Array UInt8 × Coder) := do
  let coder ← Coder.start? m.shares input
  run m.parameters dictionary extent fuel m.state out coder

/-- The size of a dictionary for which a stream asks. -/
def dictionarySize? (asked : Nat) : Option Nat :=
  if asked ≤ 0xFFFFFFF0 then some ((max asked 4096 + 15) / 16 * 16) else none

/-- The end of a stream whose size is given in eight bytes; all ones stand for a mark. -/
def extent? (size : Nat) : Option Extent :=
  if size = 0xFFFFFFFFFFFFFFFF then some .marked
  else if size ≤ 0x7FFFFFFFFFFFFFFF then some (.size size)
  else none

/-- More operations than input of this length can code. -/
def operationLimit (length : Nat) : Extent → Nat
  | .size n => n + 1
  | .marked => 256 * (length + 16)

/-- The bytes that a stream holds. In front of it are the version of the coder, the size of its
parameters, and these. -/
def decompress? (size : Nat) : Bytes → Option Bytes
  | _ :: _ :: 5 :: 0 :: parameters :: d₀ :: d₁ :: d₂ :: d₃ :: input => do
    let p ← Parameters.ofByte? parameters
    let dictionary ← dictionarySize? (littleEndian [d₀, d₁, d₂, d₃])
    let extent ← extent? size
    let fuel := operationLimit input.length extent
    let (_, out, _) ← p.model.decode? dictionary extent fuel #[] input
    return out.toList
  | _ => none

end ClassAtlas.Lzma
