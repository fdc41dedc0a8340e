import ClassAtlas.Decimal.Binary

/-!
# The fewest digits that read back

The numbers that round to a given binary number form an interval around it. Of
the decimals in that interval, those with the fewest digits are looked for, and
the one nearest to the number is taken; halfway between two, the greater.
-/

namespace ClassAtlas.Decimal

/-- The number `digits * 10 ^ exponent`. -/
structure Numeral where
  digits : Nat
  exponent : Int

/-- A number and the interval of those that round to it, all in parts of `1 / scale`. -/
structure Interval where
  low : Nat
  value : Nat
  high : Nat
  scale : Nat
  /-- Whether the ends belong to the interval. -/
  closed : Bool

namespace Interval

/-- The interval of a binary number. A tie rounds to the even mantissa, so the ends of an even
number round to it. -/
def of (b : Binary) : Interval :=
  let factor := Nat.pow 2 (b.exponent - 2).toNat
  { low := (4 * b.mantissa - (if b.narrowBelow then 1 else 2)) * factor
    value := 4 * b.mantissa * factor
    high := (4 * b.mantissa + 2) * factor
    scale := Nat.pow 2 (2 - b.exponent).toNat
    closed := b.mantissa % 2 == 0 }

/-- Compares `a * 10 ^ e` with `b / scale`, as a pair of whole numbers in the same order. -/
def compared (i : Interval) (a : Nat) (e : Int) (b : Nat) : Nat × Nat :=
  (a * Nat.pow 10 e.toNat * i.scale, b * Nat.pow 10 (-e).toNat)

def holds (i : Interval) (a : Nat) (e : Int) : Bool :=
  let (low, bound) := i.compared a e i.low
  let (high, bound') := i.compared a e i.high
  if i.closed then decide (bound ≤ low) && decide (high ≤ bound')
  else decide (bound < low) && decide (high < bound')

/-- The exponent of the number's first digit. -/
def magnitude (i : Interval) : Int :=
  let places := i.scale.log2
  ((Nat.toDigits 10 (i.value * Nat.pow 10 places / i.scale)).length : Int) - 1 - places

/-- The multiple of `10 ^ e` next below the number, in units of `10 ^ e`. -/
def below (i : Interval) (e : Int) : Nat :=
  i.value * Nat.pow 10 (-e).toNat / (Nat.pow 10 e.toNat * i.scale)

/-- Whether the number is at least as near to the multiple of `10 ^ e` above as to `a` below. -/
def nearerAbove (i : Interval) (a : Nat) (e : Int) : Bool :=
  let (middle, twice) := i.compared (2 * a + 1) e (2 * i.value)
  decide (middle ≤ twice)

/-- The decimal of the interval on the grid of `10 ^ e`, if there is one. -/
def onGrid? (i : Interval) (e : Int) : Option Numeral :=
  let a := i.below e
  match i.holds a e, i.holds (a + 1) e with
  | true, true => some ⟨if i.nearerAbove a e then a + 1 else a, e⟩
  | true, false => some ⟨a, e⟩
  | false, true => some ⟨a + 1, e⟩
  | false, false => none

/-- Tries finer and finer grids, `fuel` of them, from that of `10 ^ e` on. -/
def search (i : Interval) : Nat → Int → Numeral
  | 0, e => ⟨i.below e, e⟩
  | fuel + 1, e =>
    match i.onGrid? e with
    | some d => d
    | none => search i fuel (e - 1)

end Interval

/-- No number of a format in use needs more digits than this. -/
def mostDigits : Nat := 17

def shortest (b : Binary) : Numeral :=
  let i := Interval.of b
  i.search mostDigits i.magnitude

end ClassAtlas.Decimal
