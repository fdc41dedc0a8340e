import ClassAtlas.Checksum.XxHash
import ClassAtlas.Compression.Zstandard.Literals
import ClassAtlas.Compression.Zstandard.Sequences

/-!
# Zstandard frames

Decompresses Zstandard data: frames one after the other, each a header, blocks
and perhaps a check. A block is stored, one byte repeated, or literals and
sequences. What the coders of one block know is there for the next.
-/

namespace ClassAtlas.Zstandard

-- ---------------------------------------------------------------------------
-- Blocks
-- ---------------------------------------------------------------------------

/-- What a block finds. -/
structure Progress where
  out : Array UInt8
  literalCode : Option LiteralCode
  codes : Option Codes
  recent : Recent

def Progress.start : Progress :=
  ⟨#[], none, none, .start⟩

/-- A block of literals and sequences, with at most `limit` bytes of output. -/
def compressed? (limit : Nat) (s : Progress) (data : Bytes) : Option Progress := do
  let (literals, literalCode, rest) ← literals? limit s.literalCode data
  let (sequences, codes) ← sequences? s.codes rest
  let (out, recent) ← execute? sequences literals s.recent s.out
  if out.size ≤ s.out.size + limit then return ⟨out, literalCode, codes, recent⟩ else none

/-- The block of this kind and size at the front of bytes. -/
def block? (limit kind size : Nat) (s : Progress) (bytes : Bytes) : Option (Progress × Bytes) :=
  match kind with
  | 0 => do
    let (data, rest) ← splitBytes? size bytes
    return ({ s with out := s.out ++ data.toArray }, rest)
  | 1 => do
    let (data, rest) ← splitBytes? 1 bytes
    return ({ s with out := s.out ++ Array.replicate size (data.headD 0) }, rest)
  | 2 => do
    let (data, rest) ← splitBytes? size bytes
    return (← compressed? limit s data, rest)
  | _ => none

/-- At most `fuel` blocks up to the last, and the bytes after it. -/
def blocks? (limit : Nat) : Nat → Progress → Bytes → Option (Array UInt8 × Bytes)
  | 0, _, _ => none
  | fuel + 1, s, bytes =>
    match littleNumber? 3 bytes with
    | none => none
    | some (header, rest) =>
      let size := header / 8
      if limit < size then none
      else
        match block? limit (header / 2 % 4) size s rest with
        | none => none
        | some (s, rest) =>
          if header % 2 = 1 then some (s.out, rest) else blocks? limit fuel s rest

-- ---------------------------------------------------------------------------
-- Frames
-- ---------------------------------------------------------------------------

structure FrameHeader where
  /-- How much output the blocks may refer to. -/
  window : Nat
  /-- The size of the content, if it is given. -/
  size : Option Nat
  hasCheck : Bool

/-- The largest window. -/
def maxWindow : Nat := Nat.pow 2 27 + 1

/-- The size of a window, from its exponent and eighths. -/
def windowSize (b : UInt8) : Nat :=
  let base := Nat.pow 2 (10 + b.toNat / 8)
  base + base / 8 * (b.toNat % 8)

/-- The window of a frame, which its header gives unless the content is a single segment. -/
def window? (isSingle : Bool) (bytes : Bytes) : Option (Option Nat × Bytes) :=
  match isSingle, bytes with
  | true, _ => some (none, bytes)
  | false, [] => none
  | false, b :: rest => some (some (windowSize b), rest)

/-- The size of the content, in a field whose width depends on its kind. -/
def contentSize? (isSingle : Bool) (kind : Nat) (bytes : Bytes) : Option (Option Nat × Bytes) :=
  match kind with
  | 0 => if isSingle then (littleNumber? 1 bytes).map fun (n, r) => (some n, r)
    else some (none, bytes)
  | 1 => (littleNumber? 2 bytes).map fun (n, r) => (some (n + 256), r)
  | 2 => (littleNumber? 4 bytes).map fun (n, r) => (some n, r)
  | _ => (littleNumber? 8 bytes).map fun (n, r) => (some n, r)

/-- How many bytes name a dictionary. -/
def dictionaryWidth (kind : Nat) : Nat :=
  match kind with
  | 0 => 0
  | 1 => 1
  | 2 => 2
  | _ => 4

/-- The header at the front of bytes, and the bytes after it. No dictionary may be needed. -/
def frameHeader? : Bytes → Option (FrameHeader × Bytes)
  | [] => none
  | b :: bytes => do
    let flags := b.toNat
    let isSingle := flags / 32 % 2 == 1
    if flags / 8 % 2 = 1 then none
    let (window, bytes) ← window? isSingle bytes
    let (dictionary, bytes) ← littleNumber? (dictionaryWidth (flags % 4)) bytes
    let (size, bytes) ← contentSize? isSingle (flags / 64) bytes
    let window := window.getD (size.getD 0)
    if dictionary ≠ 0 ∨ maxWindow < window then none
    return (⟨window, size, flags / 4 % 2 == 1⟩, bytes)

/-- The largest block. -/
def maxBlock : Nat := 131072

/-- The check of some content, at the front of bytes. -/
def afterCheck? (content : Array UInt8) (bytes : Bytes) : Option Bytes := do
  let (check, rest) ← littleNumber? 4 bytes
  if check = (XxHash.checksum content.toList).toNat % Nat.pow 2 32 then return rest else none

/-- The content of a frame without its mark, and the bytes after it. -/
def frame? (bytes : Bytes) : Option (Array UInt8 × Bytes) := do
  let (header, rest) ← frameHeader? bytes
  let (content, rest) ← blocks? (min header.window maxBlock) (rest.length + 1) .start rest
  if header.size.any (· != content.size) then none
  let rest ← if header.hasCheck then afterCheck? content rest else some rest
  return (content, rest)

-- ---------------------------------------------------------------------------
-- Data
-- ---------------------------------------------------------------------------

def frameMark : Nat := 0xFD2FB528

/-- Frames to skip have sixteen marks from this one on. -/
def skipMark : Nat := 0x184D2A50

/-- The content of a frame, or nothing for one to skip, and the bytes after it. -/
def markedFrame? (bytes : Bytes) : Option (Array UInt8 × Bytes) := do
  let (mark, rest) ← littleNumber? 4 bytes
  if mark = frameMark then frame? rest
  else if mark / 16 = skipMark / 16 then
    let (size, rest) ← littleNumber? 4 rest
    let (_, rest) ← splitBytes? size rest
    return (#[], rest)
  else none

/-- At most `fuel` frames up to the end of the data. -/
def frames? : Nat → Array UInt8 → Bytes → Option (Array UInt8)
  | 0, _, _ => none
  | fuel + 1, out, bytes =>
    match markedFrame? bytes with
    | none => none
    | some (content, rest) =>
      if rest.isEmpty then some (out ++ content) else frames? fuel (out ++ content) rest

/-- What data hold. There is at least one frame, and nothing but frames. -/
def decompress? (bytes : Bytes) : Option Bytes :=
  (frames? (bytes.length + 1) #[] bytes).map (·.toList)

end ClassAtlas.Zstandard
