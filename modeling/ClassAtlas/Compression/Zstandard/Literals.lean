import ClassAtlas.Compression.Zstandard.Weights

/-!
# Literals of blocks

A compressed block opens with its literals, which are stored, one byte repeated,
or coded, with a code of their own or the one of the block before.
-/

namespace ClassAtlas.Zstandard

/-- How literals are written. -/
inductive LiteralKind where
  | stored
  | repeated
  | coded
  /-- Coded with the code used last. -/
  | again

def LiteralKind.ofBits (n : Nat) : LiteralKind :=
  match n % 4 with
  | 0 => stored
  | 1 => repeated
  | 2 => coded
  | _ => again

/-- The header of literals: how many there are, in how many bytes, and in how many streams if they
are coded. -/
structure LiteralHeader where
  kind : LiteralKind
  count : Nat
  size : Nat
  streams : Nat

/-- A header in `bytes` bytes, the lowest four bits of which are its kind and format. -/
def codedHeader? (kind : LiteralKind) (streams size : Nat) (bytes : Bytes) :
    Option (LiteralHeader × Bytes) := do
  let (header, rest) ← littleNumber? size bytes
  let width := 4 * size - 2
  let number := header / 16
  return (⟨kind, number % Nat.pow 2 width, number / Nat.pow 2 width, streams⟩, rest)

/-- A header in `size` bytes, of which the lowest bits are dropped. -/
def plainHeader? (kind : LiteralKind) (size dropped : Nat) (bytes : Bytes) :
    Option (LiteralHeader × Bytes) := do
  let (header, rest) ← littleNumber? size bytes
  let count := header / Nat.pow 2 dropped
  let stored := match kind with
    | .repeated => 1
    | _ => count
  return (⟨kind, count, stored, 1⟩, rest)

/-- The header at the front of bytes, and the bytes after it. -/
def literalHeader? (bytes : Bytes) : Option (LiteralHeader × Bytes) :=
  match bytes with
  | [] => none
  | first :: _ =>
    let kind := LiteralKind.ofBits first.toNat
    let format := first.toNat / 4 % 4
    match kind with
    | .stored | .repeated =>
      match format with
      | 1 => plainHeader? kind 2 4 bytes
      | 3 => plainHeader? kind 3 4 bytes
      | _ => plainHeader? kind 1 3 bytes
    | .coded | .again =>
      match format with
      | 0 => codedHeader? kind 1 3 bytes
      | 1 => codedHeader? kind 4 3 bytes
      | 2 => codedHeader? kind 4 4 bytes
      | _ => codedHeader? kind 4 5 bytes

/-- Coded literals. Four streams are for six literals or more. -/
def codedLiterals? (code : LiteralCode) (h : LiteralHeader) (data : Bytes) :
    Option (Array UInt8) :=
  if h.count = 0 then none
  else if h.streams = 1 then code.stream? h.count data #[]
  else if h.count < 6 then none
  else code.fourStreams? h.count data

/-- The literals that data hold, and the code that is used last then. -/
def literalsOf? (last : Option LiteralCode) (h : LiteralHeader) (data : Bytes) :
    Option (Array UInt8 × Option LiteralCode) :=
  match h.kind with
  | .stored => some (data.toArray, last)
  | .repeated => some (Array.replicate h.count (data.headD 0), last)
  | .coded => do
    let (code, data) ← LiteralCode.read? data
    return (← codedLiterals? code h data, some code)
  | .again => do
    let code ← last
    return (← codedLiterals? code h data, some code)

/-- The literals at the front of a block of at most `limit` bytes, the code that is used last
then, and the bytes after them. -/
def literals? (limit : Nat) (last : Option LiteralCode) (bytes : Bytes) :
    Option (Array UInt8 × Option LiteralCode × Bytes) := do
  let (h, rest) ← literalHeader? bytes
  if limit < h.count then none
  let (data, rest) ← splitBytes? h.size rest
  let (literals, last) ← literalsOf? last h data
  return (literals, last, rest)

end ClassAtlas.Zstandard
