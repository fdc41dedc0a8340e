import ClassAtlas.Bytes.Reader

/-!
# The code page of archives

Names in archives that are not marked as UTF-8 have one character a byte.
-/

namespace ClassAtlas.Text.Codepage

/-- The characters of the bytes from 128 on. -/
def upperHalf : List Char := String.toList (
  "ÇüéâäàåçêëèïîìÄÅ" ++
  "ÉæÆôöòûùÿÖÜ¢£¥₧ƒ" ++
  "áíóúñÑªº¿⌐¬½¼¡«»" ++
  "░▒▓│┤╡╢╖╕╣║╗╝╜╛┐" ++
  "└┴┬├─┼╞╟╚╔╩╦╠═╬╧" ++
  "╨╤╥╙╘╒╓╫╪┘┌█▄▌▐▀" ++
  "αßΓπΣσµτΦΘΩδ∞φε∩" ++
  "≡±≥≤⌠⌡÷≈°∙·√ⁿ²■\u00a0")

def char (b : UInt8) : Char :=
  if b < 128 then Char.ofNat b.toNat else (upperHalf[b.toNat - 128]?).getD ' '

def decode (bytes : Bytes) : String :=
  String.ofList (bytes.map char)

end ClassAtlas.Text.Codepage
