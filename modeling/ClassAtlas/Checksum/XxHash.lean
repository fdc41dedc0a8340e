import ClassAtlas.Bytes.LittleEndian

/-!
# The 64-bit hash of frames

The hash XXH64 with seed zero. Four words run through the input side by side, 32
bytes at a time; what is left is mixed in at the end.
-/

namespace ClassAtlas.XxHash

def prime₁ : UInt64 := 0x9E3779B185EBCA87
def prime₂ : UInt64 := 0xC2B2AE3D27D4EB4F
def prime₃ : UInt64 := 0x165667B19E3779F9
def prime₄ : UInt64 := 0x85EBCA77C2B2AE63
def prime₅ : UInt64 := 0x27D4EB2F165667C5

def rotate (x : UInt64) (n : UInt64) : UInt64 :=
  (x <<< n) ||| (x >>> (64 - n))

/-- The word in a field. -/
def word (bytes : Bytes) (offset size : Nat) : UInt64 :=
  UInt64.ofNat (fieldAt bytes offset size)

/-- One word with a word of input. -/
def round (lane input : UInt64) : UInt64 :=
  rotate (lane + input * prime₂) 31 * prime₁

structure Lanes where
  first : UInt64
  second : UInt64
  third : UInt64
  fourth : UInt64

def Lanes.start : Lanes :=
  ⟨prime₁ + prime₂, prime₂, 0, 0 - prime₁⟩

/-- Runs through `n` times 32 bytes. -/
def Lanes.run : Nat → Bytes → Lanes → Lanes
  | 0, _, l => l
  | n + 1, bytes, l =>
    run n (bytes.drop 32)
      ⟨round l.first (word bytes 0 8), round l.second (word bytes 8 8),
        round l.third (word bytes 16 8), round l.fourth (word bytes 24 8)⟩

def merge (hash lane : UInt64) : UInt64 :=
  (hash ^^^ round 0 lane) * prime₁ + prime₄

def Lanes.merged (l : Lanes) : UInt64 :=
  let sum := rotate l.first 1 + rotate l.second 7 + rotate l.third 12 + rotate l.fourth 18
  [l.first, l.second, l.third, l.fourth].foldl merge sum

def eightBytes (hash : UInt64) (input : UInt64) : UInt64 :=
  rotate (hash ^^^ round 0 input) 27 * prime₁ + prime₄

def fourBytes (hash : UInt64) (input : UInt64) : UInt64 :=
  rotate (hash ^^^ (input * prime₁)) 23 * prime₂ + prime₃

def oneByte (hash : UInt64) (b : UInt8) : UInt64 :=
  rotate (hash ^^^ (b.toUInt64 * prime₅)) 11 * prime₁

/-- Mixes in `n` times eight bytes. -/
def mixWords : Nat → Bytes → UInt64 → UInt64
  | 0, _, hash => hash
  | n + 1, bytes, hash => mixWords n (bytes.drop 8) (eightBytes hash (word bytes 0 8))

/-- Mixes in fewer than eight bytes. -/
def mixRest (bytes : Bytes) (hash : UInt64) : UInt64 :=
  if bytes.length < 4 then bytes.foldl oneByte hash
  else (bytes.drop 4).foldl oneByte (fourBytes hash (word bytes 0 4))

def finish (hash : UInt64) : UInt64 :=
  let hash := (hash ^^^ (hash >>> 33)) * prime₂
  let hash := (hash ^^^ (hash >>> 29)) * prime₃
  hash ^^^ (hash >>> 32)

def checksum (bytes : Bytes) : UInt64 :=
  let length := bytes.length
  let lanes := length / 32
  let start := if lanes = 0 then prime₅ else (Lanes.start.run lanes bytes).merged
  let rest := bytes.drop (32 * lanes)
  let words := length % 32 / 8
  let hash := mixWords words rest (start + UInt64.ofNat length)
  finish (mixRest (rest.drop (8 * words)) hash)

end ClassAtlas.XxHash
