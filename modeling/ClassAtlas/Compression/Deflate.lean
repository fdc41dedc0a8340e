import ClassAtlas.Compression.PrefixCode

/-!
# Deflate streams

What the two variants of deflated data share: the tables of lengths and
distances, and the parts of a block's header that do not depend on how its codes
are read.
-/

namespace ClassAtlas.Deflate

open BitReader

-- ---------------------------------------------------------------------------
-- Lengths and distances
-- ---------------------------------------------------------------------------

/-- Base and extra bits of the lengths that the symbols from 257 on stand for. -/
def lengths : List (Nat × Nat) := [
  (3, 0), (4, 0), (5, 0), (6, 0), (7, 0), (8, 0), (9, 0), (10, 0), (11, 1), (13, 1), (15, 1),
  (17, 1), (19, 2), (23, 2), (27, 2), (31, 2), (35, 3), (43, 3), (51, 3), (59, 3), (67, 4),
  (83, 4), (99, 4), (115, 4), (131, 5), (163, 5), (195, 5), (227, 5)]

/-- Base and extra bits of the distances. -/
def distances : List (Nat × Nat) := [
  (1, 0), (2, 0), (3, 0), (4, 0), (5, 1), (7, 1), (9, 2), (13, 2), (17, 3), (25, 3), (33, 4),
  (49, 4), (65, 5), (97, 5), (129, 6), (193, 6), (257, 7), (385, 7), (513, 8), (769, 8),
  (1025, 9), (1537, 9), (2049, 10), (3073, 10), (4097, 11), (6145, 11), (8193, 12), (12289, 12),
  (16385, 13), (24577, 13)]

/-- The value of an entry of a table. -/
def tableValue (table : List (Nat × Nat)) (index : Nat) : BitReader Nat :=
  match table[index]? with
  | none => fail
  | some (base, extra) => return base + (← lowNumber extra)

-- ---------------------------------------------------------------------------
-- Headers
-- ---------------------------------------------------------------------------

/-- Whether a block is the last, and its kind. -/
def blockHeader : BitReader (Nat × Nat) := do
  let last ← lowNumber 1
  let kind ← lowNumber 2
  return (last, kind)

/-- The size of a block that is not compressed, given twice. -/
def storedSize : BitReader Nat := do
  let size ← lowNumber 16
  let complement ← lowNumber 16
  require (size + complement == 0xFFFF)
  return size

/-- The code lengths of literals and copies in blocks without codes of their own. -/
def fixedLengths : List Nat :=
  List.replicate 144 8 ++ List.replicate 112 9 ++ List.replicate 24 7 ++ List.replicate 8 8

/-- The order in which the lengths of the code for code lengths are given. -/
def lengthOrder : List Nat :=
  [16, 17, 18, 0, 8, 7, 9, 6, 10, 5, 11, 4, 12, 3, 13, 2, 14, 1, 15]

/-- Lengths in the order of their symbols. -/
def reorder (given : List Nat) : List Nat :=
  (List.range lengthOrder.length).map fun s =>
    ((lengthOrder.zip given).lookup s).getD 0

/-- How often, and which, length a symbol above 15 repeats. -/
def repeated (lengths : List Nat) (s : Nat) : BitReader (Nat × Nat) :=
  if s = 16 then
    match lengths.getLast? with
    | none => fail
    | some last => return ((← lowNumber 2) + 3, last)
  else if s = 17 then return ((← lowNumber 3) + 3, 0)
  else return ((← lowNumber 7) + 11, 0)

/-- Goes on reading code lengths, with at most `fuel` symbols, until there are `total`. -/
def codeLengths (symbol : BitReader Nat) (total : Nat) : Nat → List Nat → BitReader (List Nat)
  | 0, _ => fail
  | fuel + 1, lengths =>
    if lengths.length = total then pure lengths
    else if total < lengths.length then fail
    else do
      let s ← symbol
      if s < 16 then codeLengths symbol total fuel (lengths ++ [s])
      else
        let (count, length) ← repeated lengths s
        codeLengths symbol total fuel (lengths ++ List.replicate count length)

end ClassAtlas.Deflate
