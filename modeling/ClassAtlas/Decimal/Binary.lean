/-!
# Binary floating point numbers

A floating point number as its bits give it: not a number, infinite, or a whole
number times a power of two.
-/

namespace ClassAtlas.Decimal

/-- Widths of a binary format: bits of the stored fraction and of the exponent. -/
structure Format where
  fractionBits : Nat
  exponentBits : Nat

namespace Format

def single : Format := ⟨23, 8⟩
def double : Format := ⟨52, 11⟩

/-- The exponent that the least stored exponent stands for, counted from the last fraction bit. -/
def leastExponent (f : Format) : Int :=
  2 - (Nat.pow 2 (f.exponentBits - 1) : Nat) - f.fractionBits

end Format

/-- A positive number `mantissa * 2 ^ exponent`. -/
structure Binary where
  mantissa : Nat
  exponent : Int
  /-- Whether the next number below is only half as far away as the next above. -/
  narrowBelow : Bool

inductive Reading where
  | notANumber
  | infinite (negative : Bool)
  | zero (negative : Bool)
  | finite (negative : Bool) (value : Binary)

/-- Reads a bit pattern of the format. -/
def Format.read (f : Format) (bits : Nat) : Reading :=
  let fraction := bits % Nat.pow 2 f.fractionBits
  let stored := bits / Nat.pow 2 f.fractionBits % Nat.pow 2 f.exponentBits
  let negative := bits / Nat.pow 2 (f.fractionBits + f.exponentBits) % 2 == 1
  if stored == Nat.pow 2 f.exponentBits - 1 then
    if fraction == 0 then .infinite negative else .notANumber
  else if stored == 0 then
    if fraction == 0 then .zero negative
    else .finite negative ⟨fraction, f.leastExponent, false⟩
  else
    .finite negative
      ⟨fraction + Nat.pow 2 f.fractionBits, f.leastExponent + (stored - 1), fraction == 0⟩

end ClassAtlas.Decimal
