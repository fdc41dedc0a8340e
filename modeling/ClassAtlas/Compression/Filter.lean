import ClassAtlas.Bytes.LittleEndian

/-!
# Filters

What is done to data before they are compressed, so that they compress better,
and undone afterwards. Differences take the place of bytes, or in machine code
the addresses that instructions refer to take the place of distances.
-/

namespace ClassAtlas.Filter

-- ---------------------------------------------------------------------------
-- Differences
-- ---------------------------------------------------------------------------

/-- Every byte is the sum of the difference in its place and the byte `distance` before it. -/
def sums (distance : Nat) (differences : Array UInt8) : Array UInt8 :=
  differences.foldl
    (fun out b =>
      out.push (b + if distance ≤ out.size then out.getD (out.size - distance) 0 else 0)) #[]

-- ---------------------------------------------------------------------------
-- Machine code in groups of bytes
-- ---------------------------------------------------------------------------

/-- Appends `n` groups of `size` bytes, each replaced by what it stands for at its position, and the
bytes after them. -/
def groups (size : Nat) (replace : UInt32 → Bytes → Bytes) :
    Nat → UInt32 → Bytes → Array UInt8 → Array UInt8
  | 0, _, bytes, out => out ++ bytes.toArray
  | n + 1, position, bytes, out =>
    groups size replace n (position + UInt32.ofNat size) (bytes.drop size)
      (out ++ (replace position (bytes.take size)).toArray)

/-- The word in some bytes, the least significant first. -/
def word (bytes : Bytes) : UInt32 :=
  UInt32.ofNat (littleEndian bytes)

/-- The lowest bytes of a word, the least significant first. -/
def wordBytes (n : Nat) (x : UInt32) : Bytes :=
  (List.range n).map fun i => (x.toNat / Nat.pow 256 i).toUInt8

/-- Branches with links of the 32-bit Power architecture. -/
def power (position : UInt32) (group : Bytes) : Bytes :=
  let x := word group.reverse
  if x &&& 0xFC000003 = 0x48000001 then
    let target := (x &&& 0x03FFFFFC) - position
    (wordBytes 4 (0x48000001 ||| (target &&& 0x03FFFFFC))).reverse
  else group

/-- Branches with links of the 32-bit ARM architecture. -/
def arm (position : UInt32) (group : Bytes) : Bytes :=
  let x := word group
  if x >>> 24 = 0xEB then
    let target := ((x <<< 2) - (position + 8)) >>> 2
    wordBytes 4 ((x &&& 0xFF000000) ||| (target &&& 0xFFFFFF))
  else group

/-- Calls of the SPARC architecture. -/
def sparc (position : UInt32) (group : Bytes) : Bytes :=
  let x := word group.reverse
  if x >>> 22 = 0x100 || x >>> 22 = 0x1FF then
    let target := ((x <<< 2) - position) >>> 2
    let sign : UInt32 := if target &&& 0x400000 = 0 then 0 else 0x3FC00000
    (wordBytes 4 (0x40000000 ||| sign ||| (target &&& 0x3FFFFF))).reverse
  else group

/-- The bits of a word from `low` on that a mask lets through. -/
def field (x low mask : UInt32) : UInt32 :=
  (x >>> low) &&& mask

/-- Branches with links and page addresses of the 64-bit ARM architecture. -/
def arm64 (position : UInt32) (group : Bytes) : Bytes :=
  let x := word group
  if x >>> 26 = 0x25 then
    let target : UInt32 := x - (position >>> 2)
    wordBytes 4 (0x94000000 ||| field target 0 0x03FFFFFF)
  else if x &&& 0x9F000000 = 0x90000000 then
    let page := field x 3 0x1FFFFC ||| field x 29 3
    if field (page + 0x20000) 0 0x1C0000 = 0 then
      let target : UInt32 := page - (position >>> 12)
      let sign : UInt32 := if field target 17 1 = 0 then 0 else 0xE00000
      let number : UInt32 := (field target 0 3 <<< 29) ||| (field target 0 0x3FFFC <<< 3)
      wordBytes 4 (field x 0 0x9000001F ||| number ||| sign)
    else group
  else group

/-- Which of the three slots of an instruction group may branch, by its template. -/
def branchSlots (template : Nat) : Nat :=
  (List.replicate 16 0 ++ [4, 4, 6, 6, 0, 0, 7, 7, 4, 4, 0, 0, 4, 4, 0, 0]).getD (template % 32) 0

/-- The instruction in a slot of 41 bits. -/
def itaniumSlot (position : UInt32) (instruction : Nat) : Nat :=
  if instruction / Nat.pow 2 37 % 16 = 5 ∧ instruction / Nat.pow 2 9 % 8 = 0 then
    let sign := instruction / Nat.pow 2 36 % 2
    let low := instruction / Nat.pow 2 13 % Nat.pow 2 20
    let source := UInt32.ofNat (16 * (Nat.pow 2 20 * sign + low))
    let target := ((source - position) >>> 4).toNat
    instruction - Nat.pow 2 36 * sign - Nat.pow 2 13 * low +
      Nat.pow 2 36 * (target / Nat.pow 2 20 % 2) + Nat.pow 2 13 * (target % Nat.pow 2 20)
  else instruction

/-- Branches of the Itanium architecture, three slots after a template of five bits. -/
def itanium (position : UInt32) (group : Bytes) : Bytes :=
  let x := littleEndian group
  let slots := branchSlots x
  let out := (List.range 3).foldr
    (fun slot rest =>
      let instruction := x / Nat.pow 2 (5 + 41 * slot) % Nat.pow 2 41
      let instruction :=
        if slots.testBit slot then itaniumSlot position instruction else instruction
      instruction + Nat.pow 2 41 * rest) 0
  let out := x % 32 + 32 * out
  (List.range 16).map fun i => (out / Nat.pow 256 i).toUInt8

-- ---------------------------------------------------------------------------
-- Other machine code
-- ---------------------------------------------------------------------------

/-- Branches with links of the Thumb instruction set, two halfwords at every even place. Only what
comes before `fuel` runs out is replaced. -/
def thumb : Nat → UInt32 → Bytes → Array UInt8 → Array UInt8
  | fuel + 1, position, b₀ :: b₁ :: b₂ :: b₃ :: rest, out =>
    let high := word [b₀, b₁]
    let low := word [b₂, b₃]
    if high >>> 11 = 0x1E ∧ low >>> 11 = 0x1F then
      let source := (field high 0 0x7FF <<< 12) ||| (field low 0 0x7FF <<< 1)
      let target := source - (position + 4)
      thumb fuel (position + 4) rest
        (out ++ (wordBytes 2 (0xF000 ||| field target 12 0x7FF)).toArray ++
          (wordBytes 2 (0xF800 ||| field target 1 0x7FF)).toArray)
    else thumb fuel (position + 2) (b₂ :: b₃ :: rest) ((out.push b₀).push b₁)
  | _, _, bytes, out => out ++ bytes.toArray

/-- Whether a byte could be the highest of a short distance. -/
def isSign (b : UInt8) : Bool :=
  b == 0 || b == 0xFF

/-- Which byte of an operand decides, given where the opcodes right before were. -/
def decidingByte (mask : Nat) : Nat :=
  [0, 1, 2, 2, 3, 3, 3, 3].getD mask 0

def isAllowed (mask : Nat) : Bool :=
  [true, true, true, false, true, false, false, false].getD mask false

/-- The distance for an address; again, if the result looks like an address as well. -/
def x86Operand (position : UInt32) (mask : Nat) : Nat → UInt32 → UInt32
  | 0, source => source - position
  | fuel + 1, source =>
    let target := source - position
    let shift := UInt32.ofNat (8 * decidingByte mask)
    if mask != 0 && isSign (target >>> (24 - shift)).toUInt8 then
      x86Operand position mask fuel (target ^^^ ((1 <<< (32 - shift)) - 1))
    else target

/-- Calls and jumps of the x86 architecture from `i` on. Opcodes inside of operands mislead, so
`after`, the place after the last opcode, and `mask`, the ones before it, tell which to trust. -/
def x86 (start : UInt32) : Nat → Nat → Nat → Nat → Array UInt8 → Array UInt8
  | 0, _, _, _, out => out
  | fuel + 1, i, after, mask, out =>
    if out.size < i + 5 then out
    else if out.getD i 0 &&& 0xFE ≠ 0xE8 then x86 start fuel (i + 1) after mask out
    else
      let gap := i - after
      let mask := if 2 < gap then 0 else mask * Nat.pow 2 gap % 8
      if mask ≠ 0 ∧ (!isAllowed mask || isSign (out.getD (i + 4 - decidingByte mask) 0)) then
        x86 start fuel (i + 1) (i + 1) (2 * mask + 1) out
      else if isSign (out.getD (i + 4) 0) then
        let source := word (out.extract (i + 1) (i + 5)).toList
        let target := x86Operand (start + UInt32.ofNat (i + 5)) mask 4 source
        let sign : UInt8 := if target &&& 0x1000000 = 0 then 0 else 0xFF
        let out := (((out.setIfInBounds (i + 1) target.toUInt8).setIfInBounds (i + 2)
          (target >>> 8).toUInt8).setIfInBounds (i + 3) (target >>> 16).toUInt8).setIfInBounds
          (i + 4) sign
        x86 start fuel (i + 5) (i + 1) mask out
      else x86 start fuel (i + 1) (i + 1) (2 * mask + 1) out

end ClassAtlas.Filter
