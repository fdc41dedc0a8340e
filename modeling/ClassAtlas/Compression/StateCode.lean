import ClassAtlas.Bytes.Bits

/-!
# State codes

An entropy code with as many states as its table has slots. Every slot belongs to
a symbol; to leave it, some bits are read and added to a base, which gives the
next state. A symbol has as many slots as its share of the table.
-/

namespace ClassAtlas

/-- How many slots of the table a symbol gets. -/
inductive Share where
  /-- One, though it is due less. -/
  | rare
  | slots (n : Nat)
deriving DecidableEq

def Share.size : Share → Nat
  | rare => 1
  | slots n => n

/-- The shares of all symbols in a table of two to the `accuracy` slots. -/
structure Distribution where
  accuracy : Nat
  shares : List Share

/-- What a state stands for and how it is left. -/
structure StateSlot where
  symbol : Nat
  bits : Nat
  base : Nat
deriving Inhabited

structure StateCode where
  accuracy : Nat
  slots : Array StateSlot

-- ---------------------------------------------------------------------------
-- Reading distributions
-- ---------------------------------------------------------------------------

namespace Distribution

open BitReader

/-- A number up to `high`, in as few bits as tell it from the others. -/
def bounded (high : Nat) : BitReader Nat := do
  let half := Nat.pow 2 high.log2
  let spare := 2 * half - 1 - high
  let low ← lowNumber high.log2
  if low < spare then return low
  else if (← bit) = 0 then return low
  else return low + half - spare

/-- How many symbols without a share follow one without; three stands for three and more. -/
def zeros : Nat → BitReader Nat
  | 0 => fail
  | fuel + 1 => do
    let n ← lowNumber 2
    if n = 3 then return 3 + (← zeros fuel) else return n

/-- Goes on reading shares until no slots are left, for at most `room` symbols. -/
def sharesFrom (room : Nat) : Nat → Nat → List Share → BitReader (List Share)
  | 0, _, _ => fail
  | fuel + 1, left, shares => do
    require (shares.length ≤ room)
    if left = 0 then return shares
    else
      match ← bounded (left + 1) with
      | 0 => sharesFrom room fuel (left - 1) (shares ++ [.rare])
      | 1 =>
        let skipped ← zeros (room + 1)
        sharesFrom room fuel left (shares ++ List.replicate (skipped + 1) (.slots 0))
      | n + 2 => sharesFrom room fuel (left - (n + 1)) (shares ++ [.slots (n + 1)])

/-- A distribution of at most this accuracy, for at most `room` symbols. -/
def read (maxAccuracy room : Nat) : BitReader Distribution := do
  let accuracy := (← lowNumber 4) + 5
  require (accuracy ≤ maxAccuracy)
  let shares ← sharesFrom room (room + 2) (Nat.pow 2 accuracy) []
  return ⟨accuracy, shares⟩

/-- The distribution at the front of bytes, and the bytes after it. -/
def read? (maxAccuracy room : Nat) (bytes : Bytes) : Option (Distribution × Bytes) :=
  match read maxAccuracy room (Bits.lowFirst bytes) with
  | .ok (d, bits) => some (d, bytes.drop (bytes.length - bits.length / 8))
  | .error _ => none

-- ---------------------------------------------------------------------------
-- Tables
-- ---------------------------------------------------------------------------

def size (d : Distribution) : Nat :=
  Nat.pow 2 d.accuracy

/-- The symbols with a rare share; their slots are the last ones. -/
def rareSymbols (d : Distribution) : List Nat :=
  (d.shares.zipIdx.filter (·.1 == .rare)).map (·.2)

/-- The other symbols, each as often as it has slots. -/
def spreadSymbols (d : Distribution) : List Nat :=
  d.shares.zipIdx.flatMap fun (share, s) =>
    match share with
    | .rare => []
    | .slots n => List.replicate n s

/-- Where the slots of the other symbols are: at equal steps around the table, so that those of
one symbol are far from each other. -/
def spreadPlaces (d : Distribution) : List Nat :=
  let step := d.size / 2 + d.size / 8 + 3
  ((List.range d.size).map fun k => k * step % d.size).filter
    (· < d.size - d.rareSymbols.length)

/-- The symbols of all slots. -/
def symbols (d : Distribution) : Array Nat :=
  let rarePlaces := d.rareSymbols.zipIdx.map fun (s, i) => (d.size - 1 - i, s)
  (rarePlaces ++ d.spreadPlaces.zip d.spreadSymbols).foldl
    (fun table (place, s) => table.setIfInBounds place s) (Array.replicate d.size 0)

/-- The slots of a symbol, in order, have the numbers from its share on; the fewer digits a number
has, the more bits are read. -/
def slotFor (d : Distribution) (s number : Nat) : StateSlot :=
  let bits := d.accuracy - number.log2
  ⟨s, bits, number * Nat.pow 2 bits - d.size⟩

def code (d : Distribution) : StateCode :=
  let start := ((d.shares.map Share.size).toArray, #[])
  let (_, slots) := d.symbols.foldl
    (fun (numbers, slots) s =>
      (numbers.modify s (· + 1), slots.push (d.slotFor s (numbers.getD s 1)))) start
  ⟨d.accuracy, slots⟩

end Distribution

-- ---------------------------------------------------------------------------
-- Using tables
-- ---------------------------------------------------------------------------

namespace StateCode

/-- The code with one symbol only, which takes no bits. -/
def single (symbol : Nat) : StateCode :=
  ⟨0, #[⟨symbol, 0, 0⟩]⟩

def slot (code : StateCode) (state : Nat) : StateSlot :=
  code.slots.getD state default

/-- The state to start with. -/
def start (code : StateCode) : BitReader Nat :=
  BitReader.highNumber code.accuracy

/-- The state after this one. -/
def next (code : StateCode) (state : Nat) : BitReader Nat := do
  let slot := code.slot state
  return slot.base + (← BitReader.highNumber slot.bits)

end StateCode

end ClassAtlas
