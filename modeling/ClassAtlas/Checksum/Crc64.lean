import ClassAtlas.Bytes.Reader

/-!
# Cyclic redundancy checks of 64 bits
-/

namespace ClassAtlas.Crc64

/-- The divisor, with its lowest power in the highest bit. -/
def polynomial : UInt64 := 0xC96C5795D7870F42

def shift (crc : UInt64) : UInt64 :=
  if crc &&& 1 = 1 then (crc >>> 1) ^^^ polynomial else crc >>> 1

def shifts : Nat → UInt64 → UInt64
  | 0, crc => crc
  | n + 1, crc => shifts n (shift crc)

def step (crc : UInt64) (b : UInt8) : UInt64 :=
  shifts 8 (crc ^^^ b.toUInt64)

def checksum (bytes : Bytes) : UInt64 :=
  bytes.foldl step 0xFFFFFFFFFFFFFFFF ^^^ 0xFFFFFFFFFFFFFFFF

end ClassAtlas.Crc64
