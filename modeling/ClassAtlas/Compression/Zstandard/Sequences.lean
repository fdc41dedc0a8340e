import ClassAtlas.Bytes.LittleEndian
import ClassAtlas.Compression.StateCode
import ClassAtlas.Compression.Window

/-!
# Sequences of blocks

After the literals of a compressed block come sequences. Each takes some literals
and then repeats some output. Their numbers are coded by three state codes that
are read in turn from the same bits.
-/

namespace ClassAtlas.Zstandard

-- ---------------------------------------------------------------------------
-- Numbers
-- ---------------------------------------------------------------------------

/-- Base and extra bits of the numbers of literals. -/
def literalCounts : List (Nat × Nat) :=
  (List.range 16).map (·, 0) ++ [
    (16, 1), (18, 1), (20, 1), (22, 1), (24, 2), (28, 2), (32, 3), (40, 3), (48, 4), (64, 6),
    (128, 7), (256, 8), (512, 9), (1024, 10), (2048, 11), (4096, 12), (8192, 13), (16384, 14),
    (32768, 15), (65536, 16)]

/-- Base and extra bits of the lengths of copies. -/
def copyLengths : List (Nat × Nat) :=
  (List.range 32).map (fun n => (n + 3, 0)) ++ [
    (35, 1), (37, 1), (39, 1), (41, 1), (43, 2), (47, 2), (51, 3), (59, 3), (67, 4), (83, 4),
    (99, 5), (131, 7), (259, 8), (515, 9), (1027, 10), (2051, 11), (4099, 12), (8195, 13),
    (16387, 14), (32771, 15), (65539, 16)]

/-- The same for what stands for a distance. -/
def distanceValues : List (Nat × Nat) :=
  (List.range 32).map fun n => (Nat.pow 2 n, n)

-- ---------------------------------------------------------------------------
-- Codes
-- ---------------------------------------------------------------------------

/-- What is known of one of the three codes before a block is read. -/
structure Numbers where
  /-- The numbers by symbol. -/
  values : Array (Nat × Nat)
  maxAccuracy : Nat
  /-- The code for blocks that give none. -/
  usual : StateCode

/-- The shares of a row of symbols, of which the last `rare` are rare. -/
def usualCode (accuracy : Nat) (shares : List Nat) (rare : Nat) : StateCode :=
  Distribution.code ⟨accuracy, shares.map Share.slots ++ List.replicate rare .rare⟩

def literalNumbers : Numbers where
  values := literalCounts.toArray
  maxAccuracy := 9
  usual := usualCode 6
    ([4, 3] ++ List.replicate 11 2 ++ [1, 1, 1] ++ List.replicate 9 2 ++ [3, 2, 1, 1, 1, 1, 1]) 4

def distanceNumbers : Numbers where
  values := distanceValues.toArray
  maxAccuracy := 8
  usual := usualCode 5 [1, 1, 1, 1, 1, 1, 2, 2, 2, 1, 1, 1, 1, 1, 1, 1, 1, 1, 1, 1, 1, 1, 1, 1] 5

def lengthNumbers : Numbers where
  values := copyLengths.toArray
  maxAccuracy := 9
  usual := usualCode 6 ([1, 4, 3, 2, 2, 2, 2, 2, 2] ++ List.replicate 37 1) 7

/-- The three codes of a block. -/
structure Codes where
  literals : StateCode
  distances : StateCode
  lengths : StateCode

/-- The code that a block gives in one of four ways: the usual one, a single symbol, a
distribution, or the code used last. -/
def code? (numbers : Numbers) (mode : Nat) (last : Option StateCode) (bytes : Bytes) :
    Option (StateCode × Bytes) :=
  match mode, bytes with
  | 0, _ => some (numbers.usual, bytes)
  | 1, [] => none
  | 1, s :: rest => if s.toNat < numbers.values.size then some (.single s.toNat, rest) else none
  | 2, _ => do
    let (distribution, rest) ←
      Distribution.read? numbers.maxAccuracy numbers.values.size bytes
    return (distribution.code, rest)
  | _, _ => last.map (·, bytes)

/-- The codes at the front of bytes, and the bytes after them. -/
def codes? (last : Option Codes) : Bytes → Option (Codes × Bytes)
  | [] => none
  | modes :: bytes => do
    let modes := modes.toNat
    if modes % 4 ≠ 0 then none
    let (literals, bytes) ← code? literalNumbers (modes / 64) (last.map (·.literals)) bytes
    let (distances, bytes) ←
      code? distanceNumbers (modes / 16 % 4) (last.map (·.distances)) bytes
    let (lengths, bytes) ← code? lengthNumbers (modes / 4 % 4) (last.map (·.lengths)) bytes
    return (⟨literals, distances, lengths⟩, bytes)

-- ---------------------------------------------------------------------------
-- Distances
-- ---------------------------------------------------------------------------

/-- The distances used last. -/
structure Recent where
  first : Nat
  second : Nat
  third : Nat

def Recent.start : Recent := ⟨1, 4, 8⟩

/-- The distance in front, and those used last then. Small values mean recent distances; after no
literals the first of them is skipped, as it could have been used for a longer copy. -/
def Recent.use (r : Recent) (value literalCount : Nat) : Nat × Recent :=
  if 3 < value then (value - 3, ⟨value - 3, r.first, r.second⟩)
  else
    match (if literalCount = 0 then value + 1 else value) with
    | 0 | 1 => (r.first, r)
    | 2 => (r.second, ⟨r.second, r.first, r.third⟩)
    | 3 => (r.third, ⟨r.third, r.first, r.second⟩)
    | _ => (r.first - 1, ⟨r.first - 1, r.first, r.second⟩)

-- ---------------------------------------------------------------------------
-- Sequences
-- ---------------------------------------------------------------------------

structure States where
  literals : Nat
  distances : Nat
  lengths : Nat

open BitReader

def Codes.start (c : Codes) : BitReader States := do
  let literals ← c.literals.start
  let distances ← c.distances.start
  let lengths ← c.lengths.start
  return ⟨literals, distances, lengths⟩

def Codes.next (c : Codes) (s : States) : BitReader States := do
  let literals ← c.literals.next s.literals
  let lengths ← c.lengths.next s.lengths
  let distances ← c.distances.next s.distances
  return ⟨literals, distances, lengths⟩

/-- The number that a symbol and the next bits stand for. -/
def Numbers.value (numbers : Numbers) (symbol : Nat) : BitReader Nat :=
  match numbers.values[symbol]? with
  | none => fail
  | some (base, extra) => return base + (← highNumber extra)

/-- A sequence as it is written. -/
structure Sequence where
  literalCount : Nat
  length : Nat
  distanceValue : Nat

def Codes.sequence (c : Codes) (s : States) : BitReader Sequence := do
  let distanceValue ← distanceNumbers.value (c.distances.slot s.distances).symbol
  let length ← lengthNumbers.value (c.lengths.slot s.lengths).symbol
  let literalCount ← literalNumbers.value (c.literals.slot s.literals).symbol
  return ⟨literalCount, length, distanceValue⟩

/-- The next `n` sequences. No bits may be left, and none are read after the last. -/
def Codes.sequences (c : Codes) : Nat → States → Array Sequence → BitReader (Array Sequence)
  | 0, _, read, bits => if bits.isEmpty then .ok (read, bits) else .error .broken
  | n + 1, s, read, bits =>
    match c.sequence s bits with
    | .error fault => .error fault
    | .ok (sequence, bits) =>
      if n = 0 then c.sequences 0 s (read.push sequence) bits
      else
        match c.next s bits with
        | .error fault => .error fault
        | .ok (s, bits) => c.sequences n s (read.push sequence) bits

/-- How many sequences there are. -/
def sequenceCount? : Bytes → Option (Nat × Bytes)
  | [] => none
  | b :: rest =>
    if b < 128 then some (b.toNat, rest)
    else if b < 255 then do
      let (low, rest) ← littleNumber? 1 rest
      return (256 * (b.toNat - 128) + low, rest)
    else do
      let (n, rest) ← littleNumber? 2 rest
      return (n + 0x7F00, rest)

/-- The sequences in the rest of a block, and the codes that are used last then. Without sequences
nothing follows their number. -/
def sequences? (last : Option Codes) (bytes : Bytes) :
    Option (Array Sequence × Option Codes) := do
  let (count, rest) ← sequenceCount? bytes
  if count = 0 then
    if rest.isEmpty then return (#[], last) else none
  else
    let (codes, rest) ← codes? last rest
    let bits ← Bits.backward? rest
    match (do codes.sequences count (← codes.start) #[]) bits with
    | .ok (sequences, _) => return (sequences, some codes)
    | .error _ => none

-- ---------------------------------------------------------------------------
-- Output
-- ---------------------------------------------------------------------------

/-- Output, the literals that are left, and the distances used last. -/
structure Execution where
  out : Array UInt8
  literals : Array UInt8
  /-- How many literals have been used. -/
  used : Nat
  recent : Recent

/-- Takes literals and repeats output. -/
def Execution.step (e : Execution) (s : Sequence) : Option Execution :=
  let used := e.used + s.literalCount
  if e.literals.size < used then none
  else
    let (distance, recent) := e.recent.use s.distanceValue s.literalCount
    let out := e.out ++ e.literals.extract e.used used
    (copyBack? distance s.length out).map fun out => ⟨out, e.literals, used, recent⟩

/-- The output after all sequences and the literals left by them, and the distances used last. -/
def execute? (sequences : Array Sequence) (literals : Array UInt8) (recent : Recent)
    (out : Array UInt8) : Option (Array UInt8 × Recent) := do
  let e ← sequences.foldlM Execution.step ⟨out, literals, 0, recent⟩
  return (e.out ++ e.literals.extract e.used e.literals.size, e.recent)

end ClassAtlas.Zstandard
