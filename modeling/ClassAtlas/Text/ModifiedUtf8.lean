import ClassAtlas.Text.Utf8

/-!
# Modified UTF-8

The encoding of texts in class files: no byte is zero, and a character beyond
the first plane is written as its two surrogates, three bytes each.
-/

namespace ClassAtlas.Text.ModifiedUtf8

def isContinuation (b : UInt8) : Bool :=
  0x80 ≤ b && b ≤ 0xBF

/-- The low six bits of a continuation byte. -/
def bits (b : UInt8) : Nat :=
  b.toNat - 0x80

/-- Whether two bytes open a character of three that is no surrogate and has no shorter form. -/
def opensThree (a b : UInt8) : Bool :=
  (a == 0xE0 && 0xA0 ≤ b && b ≤ 0xBF) ||
  (0xE1 ≤ a && a ≤ 0xEF && a != 0xED && isContinuation b) ||
  (a == 0xED && 0x80 ≤ b && b ≤ 0x9F)

/-- Whether two bytes open the first surrogate of a pair. -/
def opensFirstSurrogate (a b : UInt8) : Bool :=
  a == 0xED && 0xA0 ≤ b && b ≤ 0xAF

/-- Whether two bytes open the second surrogate of a pair. -/
def opensSecondSurrogate (a b : UInt8) : Bool :=
  a == 0xED && 0xB0 ≤ b && b ≤ 0xBF

/-- The character of a pair of surrogates, of which the low ten bits are given. -/
def pairChar (first second : Nat) : Char :=
  Char.ofNat (0x10000 + first * 1024 + second)

def decodeChars : Bytes → Option (List Char)
  | [] => some []
  | [a] => if a ≠ 0 ∧ a < 0x80 then some [Char.ofNat a.toNat] else none
  | a :: b :: rest =>
    if a = 0 then none
    else if a < 0x80 then (decodeChars (b :: rest)).map (Char.ofNat a.toNat :: ·)
    else if a = 0xC0 then
      if b = 0x80 then (decodeChars rest).map (Char.ofNat 0 :: ·) else none
    else if 0xC2 ≤ a ∧ a ≤ 0xDF then
      if isContinuation b then
        (decodeChars rest).map (Char.ofNat ((a.toNat - 0xC0) * 64 + bits b) :: ·)
      else none
    else
      match rest with
      | [] => none
      | c :: rest =>
        if !isContinuation c then none
        else if opensThree a b then
          (decodeChars rest).map
            (Char.ofNat (((a.toNat - 0xE0) * 64 + bits b) * 64 + bits c) :: ·)
        else if opensFirstSurrogate a b then
          match rest with
          | d :: e :: f :: rest =>
            if opensSecondSurrogate d e && isContinuation f then
              (decodeChars rest).map
                (pairChar ((bits b - 0x20) * 64 + bits c) ((bits e - 0x30) * 64 + bits f) :: ·)
            else none
          | _ => none
        else none

/-- Texts that are plain UTF-8 are taken as they are, even with a zero byte. -/
def decode? (bytes : Bytes) : Option String :=
  match Utf8.decode? bytes with
  | some text => some text
  | none => (decodeChars bytes).map String.ofList

end ClassAtlas.Text.ModifiedUtf8
