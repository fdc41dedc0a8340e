import ClassAtlas.Compression.PrefixCode
import ClassAtlas.Compression.Shuffle

/-!
# Block-sorted data

Decompresses a bzip2 stream. A block is a text whose runs were cut short, which
may have been shuffled, whose rotations were sorted, and of which the last column
is kept: as places in a list of characters in which the last one used comes
first, coded with several prefix codes in turn. Unpacking undoes these steps in
the other order.
-/

namespace ClassAtlas.Bzip2

open BitReader

-- ---------------------------------------------------------------------------
-- Symbols
-- ---------------------------------------------------------------------------

/-- Moves the element at `index` to the front. -/
def toFront {α : Type} (list : List α) (index : Nat) : List α :=
  (list[index]?).toList ++ list.eraseIdx index

/-- How many set bits come before one that is not. -/
def unary : Nat → BitReader Nat
  | 0 => fail
  | fuel + 1 => do
    if (← bit) = 0 then return 0 else return (← unary fuel) + 1

/-- Which code each group of symbols has, each given by its place among those used last. -/
def selectors : Nat → List Nat → BitReader (List Nat)
  | 0, _ => pure []
  | n + 1, recent => do
    let index ← unary recent.length
    match recent[index]? with
    | none => fail
    | some code => return code :: (← selectors n (toFront recent index))

/-- The longest code. -/
def maxCodeLength : Nat := 20

/-- The length of a code, from the one before it by single steps up and down. -/
def codeLength : Nat → Nat → BitReader Nat
  | 0, _ => fail
  | fuel + 1, length => do
    require (1 ≤ length && length ≤ maxCodeLength)
    if (← bit) = 0 then return length
    else if (← bit) = 0 then codeLength fuel (length + 1)
    else codeLength fuel (length - 1)

/-- The next `n` lengths of codes. -/
def codeLengths (fuel : Nat) : Nat → Nat → BitReader (List Nat)
  | 0, _ => pure []
  | n + 1, length => do
    let length ← codeLength fuel length
    return length :: (← codeLengths fuel n length)

/-- The code for this many symbols. -/
def code (fuel symbolCount : Nat) : BitReader PrefixCode := do
  let lengths ← codeLengths fuel symbolCount (← highNumber 5)
  return .ofLengths maxCodeLength lengths

/-- A code is used for as many symbols before the next one takes its turn. -/
def groupSize : Nat := 50

/-- The symbols up to the one that ends the block, at most `fuel`; `left` of them are still to be
read with the current code. -/
def symbols (codes : List PrefixCode) (final : Nat) :
    Nat → Nat → PrefixCode → List Nat → Array Nat → BitReader (Array Nat)
  | 0, _, _, _, _, _ => .error .broken
  | fuel + 1, 0, _, selector :: selectors, out, bits =>
    match codes[selector]? with
    | none => .error .broken
    | some code => symbols codes final fuel groupSize code selectors out bits
  | _ + 1, 0, _, [], _, _ => .error .broken
  | fuel + 1, left + 1, code, selectors, out, bits =>
    match code.symbol bits with
    | .error fault => .error fault
    | .ok (s, bits) =>
      if s = final then .ok (out, bits)
      else symbols codes final fuel left code selectors (out.push s) bits

-- ---------------------------------------------------------------------------
-- Columns
-- ---------------------------------------------------------------------------

/-- A repetition that is being counted: how often so far, and what the next digit counts. -/
structure Repetition where
  count : Nat
  weight : Nat

/-- The column that symbols stand for. The first two symbols are digits that count repetitions of
the character used last, the others are places in the list of characters. -/
def column (limit : Nat) : List Nat → Bytes → Repetition → Array UInt8 → Option (Array UInt8)
  | [], recent, r, out =>
    if out.size + r.count ≤ limit then
      some (out ++ Array.replicate r.count (recent.headD 0))
    else none
  | s :: rest, recent, r, out =>
    if limit < out.size + r.count then none
    else if s < 2 then
      column limit rest recent ⟨r.count + (s + 1) * r.weight, 2 * r.weight⟩ out
    else
      match recent[s - 1]? with
      | none => none
      | some b =>
        column limit rest (toFront recent (s - 1)) ⟨0, 1⟩
          ((out ++ Array.replicate r.count (recent.headD 0)).push b)

/-- The places in the column, by the characters at them. -/
def sortedPlaces (column : Array UInt8) : Array Nat :=
  (column.toList.zipIdx.mergeSort fun a b => decide (a.1 ≤ b.1)).map (·.2) |>.toArray

/-- Appends the next `n` characters of the text from a place in the column on. -/
def unsort (column : Array UInt8) (places : Array Nat) :
    Nat → Nat → Array UInt8 → Array UInt8
  | 0, _, out => out
  | n + 1, place, out =>
    unsort column places n (places.getD place 0) (out.push (column.getD place 0))

/-- The text with its runs at full length: after four times the same character comes the number
of those left out, which must be there. -/
def expandRuns : Nat → UInt8 → Bytes → Array UInt8 → Option (Array UInt8)
  | count, _, [], out => if count = 4 then none else some out
  | count, last, b :: bytes, out =>
    if count = 4 then expandRuns 0 last bytes (out ++ Array.replicate b.toNat last)
    else if 0 < count ∧ b = last then expandRuns (count + 1) last bytes (out.push b)
    else expandRuns 1 b bytes (out.push b)

-- ---------------------------------------------------------------------------
-- Checks
-- ---------------------------------------------------------------------------

def shift (crc : UInt32) : UInt32 :=
  if crc &&& 0x80000000 = 0 then crc <<< 1 else (crc <<< 1) ^^^ 0x04C11DB7

def shifts : Nat → UInt32 → UInt32
  | 0, crc => crc
  | n + 1, crc => shifts n (shift crc)

def step (crc : UInt32) (b : UInt8) : UInt32 :=
  shifts 8 (crc ^^^ (b.toUInt32 <<< 24))

/-- The check of a block. -/
def checksum (bytes : Array UInt8) : UInt32 :=
  bytes.foldl step 0xFFFFFFFF ^^^ 0xFFFFFFFF

/-- The check of a stream with one block more. -/
def combine (stream block : UInt32) : UInt32 :=
  ((stream <<< 1) ||| (stream >>> 31)) ^^^ block

-- ---------------------------------------------------------------------------
-- Blocks
-- ---------------------------------------------------------------------------

/-- The positions of the set bits. -/
def setBits (flags : List Nat) : List Nat :=
  (flags.zipIdx.filter (·.1 == 1)).map (·.2)

/-- The characters that a block uses: first which of sixteen ranges have any, then which of each. -/
def usedCharacters : BitReader Bytes := do
  let ranges := setBits (← times bit 16)
  let used ← ranges.mapM fun range => do
    return (setBits (← times bit 16)).map fun i => (16 * range + i).toUInt8
  return used.flatten

/-- The column of a block of at most `limit` characters. -/
def blockColumn (limit : Nat) : BitReader (Array UInt8) := do
  let fuel := (← get).length + 1
  let characters ← usedCharacters
  let final := characters.length + 1
  let codeCount ← highNumber 3
  let selectorCount ← highNumber 15
  require (!characters.isEmpty && 2 ≤ codeCount && codeCount ≤ 6 && selectorCount != 0)
  let chosen ← selectors selectorCount (List.range codeCount)
  let codes ← times (code fuel (final + 1)) codeCount
  let read ← symbols codes final (2 * fuel) 0 ⟨[]⟩ chosen #[]
  ofOption (column limit read.toList characters ⟨0, 1⟩ #[])

/-- A block of at most `limit` characters with its check. -/
def block (limit : Nat) : BitReader (Array UInt8 × UInt32) := do
  let crc ← highNumber 32
  let isShuffled ← bit
  let origin ← highNumber 24
  let column ← blockColumn limit
  require (origin < column.size)
  let places := sortedPlaces column
  let sorted := unsort column places column.size (places.getD origin 0) #[]
  let text := if isShuffled = 1 then unshuffle sorted else sorted
  let out ← ofOption (expandRuns 0 0 text.toList #[])
  require (checksum out == UInt32.ofNat crc)
  return (out, UInt32.ofNat crc)

-- ---------------------------------------------------------------------------
-- Streams
-- ---------------------------------------------------------------------------

def blockMark : Nat := 0x314159265359
def endMark : Nat := 0x177245385090

/-- At most `fuel` blocks, and the end of the stream, which checks them all. -/
def blocks (limit : Nat) : Nat → UInt32 → Array UInt8 → BitReader (Array UInt8)
  | 0, _, _ => fail
  | fuel + 1, crc, out => do
    let mark ← highNumber 48
    if mark = blockMark then
      let (text, blockCrc) ← block limit
      blocks limit fuel (combine crc blockCrc) (out ++ text)
    else
      require (mark == endMark)
      let check ← highNumber 32
      require (UInt32.ofNat check == crc)
      return out

/-- What a stream holds. What follows the stream is ignored. -/
def decompress? : Bytes → Option Bytes
  | 0x42 :: 0x5A :: 0x68 :: level :: rest =>
    if 0x31 ≤ level ∧ level ≤ 0x39 then
      (blocks (100000 * (level.toNat - 0x30)) (rest.length + 1) 0 #[]
        (Bits.highFirst rest)).toOption.map (·.1.toList)
    else none
  | _ => none

end ClassAtlas.Bzip2
