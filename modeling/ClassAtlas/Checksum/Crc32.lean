import ClassAtlas.Bytes.Reader

/-!
# Cyclic redundancy checks

The remainder by which archives check the content of their entries.
-/

namespace ClassAtlas.Crc32

/-- The divisor, with its lowest power in the highest bit. -/
def polynomial : UInt32 := 0xEDB88320

def shift (crc : UInt32) : UInt32 :=
  if crc &&& 1 = 1 then (crc >>> 1) ^^^ polynomial else crc >>> 1

def shifts : Nat → UInt32 → UInt32
  | 0, crc => crc
  | n + 1, crc => shifts n (shift crc)

def step (crc : UInt32) (b : UInt8) : UInt32 :=
  shifts 8 (crc ^^^ b.toUInt32)

def checksum (bytes : Bytes) : UInt32 :=
  bytes.foldl step 0xFFFFFFFF ^^^ 0xFFFFFFFF

end ClassAtlas.Crc32
