import ClassAtlas.Bytes.Reader

/-!
# Range coders

Every decision of the coder is one binary digit, coded in a share of a range that
adapts to the digits before it in the same context. From digits come numbers.
-/

namespace ClassAtlas.RangeCoder

-- ---------------------------------------------------------------------------
-- Digits
-- ---------------------------------------------------------------------------

structure Coder where
  range : UInt32
  code : UInt32
  input : Bytes
  /-- Whether there was less input than was read. -/
  overrun : Bool
  /-- The share of zero in every context, out of 2048. -/
  shares : Array UInt32

abbrev Decode := StateM Coder

/-- A coder at the start of its input, which opens with a zero and four bytes of code. -/
def Coder.start? (shares : Array UInt32) : Bytes → Option Coder
  | 0 :: c₀ :: c₁ :: c₂ :: c₃ :: input =>
    let code : UInt32 :=
      [c₀, c₁, c₂, c₃].foldl (fun code b => (code <<< 8) ||| b.toUInt32) 0
    some ⟨0xFFFFFFFF, code, input, false, shares⟩
  | _ => none

/-- Widens the range by a byte of input if it is small. Input that is missing counts as zeros. -/
def Coder.widen (c : Coder) : Coder :=
  if c.range < 0x1000000 then
    { c with
      range := c.range <<< 8
      code := (c.code <<< 8) ||| (c.input.headD 0).toUInt32
      input := c.input.tail
      overrun := c.overrun || c.input.isEmpty }
  else c

/-- Whether all input was read and nothing is left of the code. -/
def Coder.isFinished (c : Coder) : Bool :=
  let c := c.widen
  c.input.isEmpty && !c.overrun && c.code == 0

/-- The next digit in a context. -/
def digit (context : Nat) : Decode Nat := fun c =>
  match c.widen with
  | ⟨range, code, input, overrun, shares⟩ =>
    let share := shares.getD context 0
    let bound := (range >>> 11) * share
    if code < bound then
      (0, ⟨bound, code, input, overrun,
        shares.setIfInBounds context (share + ((2048 - share) >>> 5))⟩)
    else
      (1, ⟨range - bound, code - bound, input, overrun,
        shares.setIfInBounds context (share - (share >>> 5))⟩)

/-- The next digit if both are equally likely. -/
def evenDigit : Decode Nat := fun c =>
  match c.widen with
  | ⟨range, code, input, overrun, shares⟩ =>
    let half := range >>> 1
    if code < half then (0, ⟨half, code, input, overrun, shares⟩)
    else (1, ⟨half, code - half, input, overrun, shares⟩)

-- ---------------------------------------------------------------------------
-- Numbers
-- ---------------------------------------------------------------------------

/-- Appends `n` digits to the digits so far, which choose the context of the next one. -/
def digitsFrom (context : Nat) : Nat → Nat → Decode Nat
  | 0, digits => pure digits
  | n + 1, digits => do digitsFrom context n (2 * digits + (← digit (context + digits)))

/-- A number of `n` digits, the highest first. -/
def number (context n : Nat) : Decode Nat := do
  return (← digitsFrom context n 1) - Nat.pow 2 n

/-- A number of `n` digits, the lowest first and counting `weight`. -/
def lowNumberFrom (context : Nat) : Nat → Nat → Nat → Decode Nat
  | 0, _, _ => pure 0
  | n + 1, digits, weight => do
    let d ← digit (context + digits)
    return weight * d + (← lowNumberFrom context n (2 * digits + d) (2 * weight))

def lowNumber (context n : Nat) : Decode Nat :=
  lowNumberFrom context n 1 1

/-- A number of `n` digits, the highest first, all digits equally likely. -/
def evenNumber : Nat → Nat → Decode Nat
  | 0, digits => pure digits
  | n + 1, digits => do evenNumber n (2 * digits + (← evenDigit))

end ClassAtlas.RangeCoder
