import ClassAtlas.Bytes.Reader

/-!
# Copies from earlier output

What dictionary coders share: a stretch of the output that stands there already
is written once more. It may reach into what it writes itself.
-/

namespace ClassAtlas

/-- Appends `count` bytes, each the one that stands `distance` before the end. Zeros stand before
the output. -/
def copyBack (distance : Nat) : Nat → Array UInt8 → Array UInt8
  | 0, out => out
  | count + 1, out =>
    let b := if distance ≤ out.size then out.getD (out.size - distance) 0 else 0
    copyBack distance count (out.push b)

/-- The same if the output reaches so far back. -/
def copyBack? (distance count : Nat) (out : Array UInt8) : Option (Array UInt8) :=
  if 0 < distance ∧ distance ≤ out.size then some (copyBack distance count out) else none

end ClassAtlas
