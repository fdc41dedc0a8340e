/-!
# Reading bytes

A reader takes bytes from the front of a list and knows how many it has passed.
Numbers are stored with their most significant byte first.
-/

namespace ClassAtlas

abbrev Bytes := List UInt8

/-- Where a reader stands. -/
structure Cursor where
  /-- How many bytes have been passed. -/
  position : Nat
  rest : Bytes
deriving DecidableEq

namespace Cursor

def ofBytes (bytes : Bytes) : Cursor := ⟨0, bytes⟩

/-- How many bytes there were to start with. -/
def size (c : Cursor) : Nat :=
  c.position + c.rest.length

end Cursor

abbrev Reader (ε : Type) := StateT Cursor (Except ε)

/-- Errors that can say that bytes are missing. -/
class Truncation (ε : Type) where
  truncated (need position size : Nat) : ε

namespace Reader

variable {ε α : Type}

def fail (e : ε) : Reader ε α :=
  fun _ => .error e

def runOn (reader : Reader ε α) (bytes : Bytes) : Except ε α :=
  match reader (Cursor.ofBytes bytes) with
  | .ok (a, _) => .ok a
  | .error e => .error e

/-- How many bytes are left. -/
def remaining : Reader ε Nat :=
  fun c => .ok (c.rest.length, c)

/-- The same reader, `n` times. -/
def replicate : Nat → Reader ε α → Reader ε (List α)
  | 0, _ => pure []
  | n + 1, reader => do
    let a ← reader
    let as ← replicate n reader
    return a :: as

variable [Truncation ε]

/-- The next `n` bytes. -/
def take (n : Nat) : Reader ε Bytes := fun c =>
  if n ≤ c.rest.length then .ok (c.rest.take n, ⟨c.position + n, c.rest.drop n⟩)
  else .error (Truncation.truncated n c.position c.size)

def skip (n : Nat) : Reader ε Unit := do
  let _ ← take n

/-- The number that bytes stand for, the first one being the most significant. -/
def bigEndian (bytes : Bytes) : Nat :=
  bytes.foldl (fun n b => n * 256 + b.toNat) 0

/-- The number stored in the next `width` bytes. -/
def nat (width : Nat) : Reader ε Nat := do
  return bigEndian (← take width)

def u8 : Reader ε Nat := nat 1

def u16 : Reader ε Nat := nat 2

def u32 : Reader ε Nat := nat 4

/-- A word of access flags. -/
def flags : Reader ε UInt16 := do
  return UInt16.ofNat (← u16)

/-- A count, and then as many items. -/
def list (item : Reader ε α) : Reader ε (List α) := do
  let count ← u16
  replicate count item

end Reader

end ClassAtlas
