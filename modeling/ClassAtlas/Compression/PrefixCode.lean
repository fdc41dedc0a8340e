import ClassAtlas.Bytes.Bits

/-!
# Prefix codes

Canonical prefix codes: they are given by the lengths of their codes alone. The
codes of one length follow each other in the order of their symbols, and
longer codes come after shorter ones. So a code is read by counting the codes
of every length that it passes.
-/

namespace ClassAtlas

/-- The symbols by the lengths of their codes, from one bit up. -/
structure PrefixCode where
  symbols : List (List Nat)

namespace PrefixCode

/-- The symbols whose code has this length. -/
def symbolsOfLength (lengths : List Nat) (length : Nat) : List Nat :=
  (lengths.zipIdx.filter (·.1 == length)).map (·.2)

/-- The code with these lengths, zero for symbols without a code. -/
def ofLengths (maxLength : Nat) (lengths : List Nat) : PrefixCode :=
  ⟨(List.range maxLength).map fun i => symbolsOfLength lengths (i + 1)⟩

-- ---------------------------------------------------------------------------
-- Kinds
-- ---------------------------------------------------------------------------

/-- What is left of `free` codes of the length before, when every symbol has its code; `none` if
they do not suffice. -/
def freeCodes (free : Nat) : List (List Nat) → Option Nat
  | [] => some free
  | symbols :: longer =>
    if symbols.length ≤ 2 * free then freeCodes (2 * free - symbols.length) longer else none

/-- Whether every sequence of bits is read as some symbol. -/
def isComplete (code : PrefixCode) : Bool :=
  freeCodes 1 code.symbols == some 0

/-- Whether there is no symbol at all. -/
def isEmpty (code : PrefixCode) : Bool :=
  code.symbols.all (·.isEmpty)

/-- Whether there is but one symbol, with a code of one bit. -/
def isSingle (code : PrefixCode) : Bool :=
  match code.symbols with
  | [_] :: longer => longer.all (·.isEmpty)
  | _ => false

-- ---------------------------------------------------------------------------
-- Reading
-- ---------------------------------------------------------------------------

/-- Reads a symbol; `offset` tells how far the bits so far are beyond the codes of their length. -/
def symbolFrom : List (List Nat) → Nat → BitReader Nat
  | [], _ => BitReader.fail
  | symbols :: longer, offset => do
    let offset := 2 * offset + (← BitReader.bit)
    match symbols[offset]? with
    | some s => return s
    | none => symbolFrom longer (offset - symbols.length)

def symbol (code : PrefixCode) : BitReader Nat :=
  symbolFrom code.symbols 0

end PrefixCode

end ClassAtlas
