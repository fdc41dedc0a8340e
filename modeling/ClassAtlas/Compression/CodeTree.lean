import ClassAtlas.Bytes.Bits

/-!
# Trees of codes

A lenient reading of canonical prefix codes. Bits lead from the root of a tree to
a leaf with a symbol, and the symbol's own length tells how many of them are its
code. Lengths that give no proper code are read as well: codes that are left over
mean the first symbol, and where codes overlap the later symbol wins, save that
a long code may not go on from a shorter one.
-/

namespace ClassAtlas

inductive CodeTree where
  | leaf (symbol : Nat)
  | node (zero one : CodeTree)

namespace CodeTree

def zero : CodeTree → CodeTree
  | leaf s => leaf s
  | node z _ => z

def one : CodeTree → CodeTree
  | leaf s => leaf s
  | node _ o => o

/-- The tree in which a code leads to `s`. -/
def insert (s : Nat) : Bits → CodeTree → CodeTree
  | [], _ => leaf s
  | false :: code, t => node (insert s code t.zero) t.one
  | true :: code, t => node t.zero (insert s code t.one)

/-- Whether a code does not go on from that of a symbol other than the first. -/
def isFree : Bits → CodeTree → Bool
  | [], _ => true
  | _ :: _, leaf s => s == 0
  | false :: code, node z _ => isFree code z
  | true :: code, node _ o => isFree code o

/-- The symbol that bits lead to. Missing bits count as zeros. -/
def find : CodeTree → Bits → Nat
  | leaf s, _ => s
  | node z _, [] => z.find []
  | node z _, false :: bits => z.find bits
  | node _ o, true :: bits => o.find bits

end CodeTree

-- ---------------------------------------------------------------------------
-- Codes
-- ---------------------------------------------------------------------------

structure LenientCode where
  /-- The lengths of the symbols' codes, zero for symbols without a code. -/
  lengths : Array Nat
  tree : CodeTree

namespace LenientCode

/-- The first code of this length. -/
def firstCode (lengths : List Nat) : Nat → Nat
  | 0 => 0
  | n + 1 => 2 * (firstCode lengths n + if n = 0 then 0 else lengths.count n)

/-- The lowest `n` bits of a number, the highest first. -/
def codeBits (n number : Nat) : Bits :=
  (List.range n).reverse.map number.testBit

/-- Gives the symbols from `s` on their codes; `next` has the next code of every length. Codes of
more than `direct` bits must be free. -/
def insertFrom (direct : Nat) : List Nat → Nat → Array Nat → CodeTree → Option CodeTree
  | [], _, _, tree => some tree
  | length :: lengths, s, next, tree =>
    if length = 0 then insertFrom direct lengths (s + 1) next tree
    else
      let code := codeBits length (next.getD length 0)
      if length ≤ direct || tree.isFree code then
        insertFrom direct lengths (s + 1) (next.modify length (· + 1)) (tree.insert s code)
      else none

/-- The code with these lengths, of at most fifteen bits. -/
def ofLengths? (direct : Nat) (lengths : List Nat) : Option LenientCode := do
  let next := ((List.range 16).map (firstCode lengths)).toArray
  let tree ← insertFrom direct lengths 0 next (.leaf 0)
  return ⟨lengths.toArray, tree⟩

def symbol (code : LenientCode) : BitReader Nat := do
  let bits ← get
  BitReader.lookAhead 1
  let s := code.tree.find bits
  let length := code.lengths.getD s 0
  BitReader.require (length != 0)
  BitReader.skip length
  return s

end LenientCode

end ClassAtlas
