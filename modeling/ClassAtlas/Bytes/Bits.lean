import ClassAtlas.Bytes.Reader

/-!
# Reading bits

Bytes as sequences of bits, from either end of every byte, and a reader that
takes bits from the front.
-/

namespace ClassAtlas

abbrev Bits := List Bool

namespace Bits

/-- The bits of bytes, the lowest of every byte first. -/
def lowFirst (bytes : Bytes) : Bits :=
  bytes.flatMap fun b => (List.range 8).map b.toNat.testBit

/-- The bits of bytes, the highest of every byte first. -/
def highFirst (bytes : Bytes) : Bits :=
  bytes.flatMap fun b => (List.range 8).reverse.map b.toNat.testBit

/-- The bits of bytes from the last to the first. The highest set bit of the last byte only marks
where they start. -/
def backward? (bytes : Bytes) : Option Bits :=
  match bytes.getLast? with
  | none | some 0 => none
  | some _ => some (((highFirst bytes.reverse).dropWhile (!·)).drop 1)

end Bits

/-- Why bits cannot be read. -/
inductive BitFault where
  /-- They end early. -/
  | ended
  /-- They break a rule of their format. -/
  | broken
deriving DecidableEq

/-- Reads from the front of the bits. -/
abbrev BitReader := StateT Bits (Except BitFault)

namespace BitReader

variable {α : Type}

def fail : BitReader α :=
  throw .broken

def require (condition : Bool) : BitReader Unit :=
  if condition then pure () else fail

def ofOption : Option α → BitReader α
  | some a => pure a
  | none => fail

def bit : BitReader Nat
  | [] => .error .ended
  | b :: bits => .ok (b.toNat, bits)

/-- Passes over `n` bits. -/
def skip : Nat → BitReader Unit
  | 0 => pure ()
  | n + 1 => do
    let _ ← bit
    skip n

/-- The number in the first `n` bits, the highest first. Missing bits count as zeros. -/
def peek : Nat → Nat → Bits → Nat
  | 0, number, _ => number
  | n + 1, number, [] => peek n (2 * number) []
  | n + 1, number, b :: bits => peek n (2 * number + b.toNat) bits

/-- Reads nothing, but `n` bits must be there. -/
def lookAhead (n : Nat) : BitReader Unit := fun bits =>
  (skip n bits).map fun _ => ((), bits)

/-- The number in the next `n` bits, the lowest first. -/
def lowNumber : Nat → BitReader Nat
  | 0 => pure 0
  | n + 1 => do
    let low ← bit
    let high ← lowNumber n
    return low + 2 * high

/-- The number that goes on from `number` with the next `n` bits, the highest first. -/
def highNumberFrom (number : Nat) : Nat → BitReader Nat
  | 0 => pure number
  | n + 1 => do highNumberFrom (2 * number + (← bit)) n

/-- The number in the next `n` bits, the highest first. -/
def highNumber (n : Nat) : BitReader Nat :=
  highNumberFrom 0 n

/-- What one reader gives `n` times. -/
def times (reader : BitReader α) : Nat → BitReader (List α)
  | 0 => pure []
  | n + 1 => do
    let value ← reader
    let values ← times reader n
    return value :: values

end BitReader

end ClassAtlas
