import ClassAtlas.Compression.Lzma

/-!
# Chunks of range-coded copies

Decompresses an LZMA2 stream. It comes in chunks, coded or not, each of which
says what it forgets of the chunks before it: nothing, what the coder has
learned, or the dictionary as well.
-/

namespace ClassAtlas.Lzma2

open Lzma

/-- What a chunk finds. -/
structure Progress where
  /-- Output out of the reach of copies. -/
  done : Array UInt8
  /-- The output since the dictionary was last emptied, which comes first of all. -/
  recent : Option (Array UInt8)
  /-- What the coder knows, unless its parameters have to be given anew. -/
  model : Option Model

/-- Empties the dictionary. -/
def Progress.reset (s : Progress) : Progress :=
  ⟨s.done ++ s.recent.getD #[], some #[], none⟩

def Progress.output (s : Progress) : Array UInt8 :=
  s.done ++ s.recent.getD #[]

/-- The number in the next two bytes plus one, and the bytes after it. -/
def sizeField? : Bytes → Option (Nat × Bytes)
  | high :: low :: rest => some (256 * high.toNat + low.toNat + 1, rest)
  | _ => none

/-- The parameters in a byte, with few contexts for literals. -/
def parameters? (b : UInt8) : Option Parameters := do
  let p ← Parameters.ofByte? b
  if p.lastBits + p.literalBits ≤ 4 then return p else none

/-- The model that a coded chunk starts with: a new one, one that has forgotten what it learned, or
the one that is there. -/
def chunkModel? (control : UInt8) (model : Option Model) (rest : Bytes) : Option (Model × Bytes) :=
  if 0xC0 ≤ control then
    match rest with
    | b :: rest => (parameters? b).map fun p => (p.model, rest)
    | [] => none
  else
    model.map fun m => (if 0xA0 ≤ control then m.parameters.model else m, rest)

/-- A chunk of copies and literals. It must end exactly where its input does. -/
def codedChunk? (dictionary : Nat) (control : UInt8) (recent : Array UInt8) (s : Progress)
    (rest : Bytes) : Option (Progress × Bytes) := do
  let (low, rest) ← sizeField? rest
  let (inputSize, rest) ← sizeField? rest
  let (model, rest) ← chunkModel? control s.model rest
  let (input, rest) ← splitBytes? inputSize rest
  let size := 65536 * (control.toNat % 32) + low
  let (state, out, coder) ←
    model.decode? dictionary (.size (recent.size + size)) (size + 1) recent input
  if coder.isFinished then
    return (⟨s.done, some out, some ⟨model.parameters, state, coder.shares⟩⟩, rest)
  else none

/-- A chunk of bytes as they are. -/
def plainChunk? (recent : Array UInt8) (s : Progress) (rest : Bytes) :
    Option (Progress × Bytes) := do
  let (size, rest) ← sizeField? rest
  let (bytes, rest) ← splitBytes? size rest
  return (⟨s.done, some (recent ++ bytes.toArray), s.model⟩, rest)

/-- The chunk that starts with this byte. -/
def chunk? (dictionary : Nat) (control : UInt8) (s : Progress) (rest : Bytes) :
    Option (Progress × Bytes) := do
  let s := if control = 1 ∨ 0xE0 ≤ control then s.reset else s
  let recent ← s.recent
  if 0x80 ≤ control then codedChunk? dictionary control recent s rest
  else if control ≤ 2 then plainChunk? recent s rest
  else none

/-- At most `fuel` chunks up to the end of the stream, and the bytes after it. -/
def chunks? (dictionary : Nat) : Nat → Progress → Bytes → Option (Array UInt8 × Bytes)
  | 0, _, _ => none
  | _, _, [] => none
  | fuel + 1, s, control :: rest =>
    if control = 0 then some (s.output, rest)
    else
      match chunk? dictionary control s rest with
      | none => none
      | some (s, rest) => chunks? dictionary fuel s rest

/-- What the stream at the front of bytes holds, and the bytes after it. -/
def decompress? (dictionary : Nat) (bytes : Bytes) : Option (Array UInt8 × Bytes) :=
  chunks? dictionary (bytes.length + 1) ⟨#[], none, none⟩ bytes

end ClassAtlas.Lzma2
