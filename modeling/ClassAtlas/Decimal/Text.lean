import ClassAtlas.Decimal.Shortest

/-!
# Text of floating point numbers

Positional notation with at least one place after the point, or a mantissa and
an exponent where the number is very small or very large.
-/

namespace ClassAtlas.Decimal

/-- Whether a number whose first digit has this exponent is written out: from a ten-thousandth up
to, not including, ten to the sixteenth. -/
def isPositional (exponent : Int) : Bool :=
  decide (-4 ≤ exponent) && decide (exponent ≤ 15)

def zeros (n : Nat) : List Char :=
  List.replicate n '0'

def stripTrailingZeros (digits : List Char) : List Char :=
  (digits.reverse.dropWhile (· == '0')).reverse

/-- The digits with the point after the first `places` of them. -/
def placePoint (places : Nat) (digits : List Char) : List Char :=
  let fraction := digits.drop places
  digits.take places ++ zeros (places - digits.length) ++
    '.' :: (if fraction.isEmpty then ['0'] else fraction)

/-- The digits as a mantissa with one digit before the point, and no point after a lone digit. -/
def mantissaText : List Char → List Char
  | [] => []
  | [d] => [d]
  | d :: ds => d :: '.' :: ds

def Numeral.text (d : Numeral) : String :=
  let all := Nat.toDigits 10 d.digits
  let exponent := d.exponent + all.length - 1
  let digits := stripTrailingZeros all
  if isPositional exponent then
    if 0 ≤ exponent then String.ofList (placePoint (exponent.toNat + 1) digits)
    else String.ofList ('0' :: '.' :: zeros ((-exponent).toNat - 1) ++ digits)
  else String.ofList (mantissaText digits) ++ "e" ++ toString exponent

def Reading.text : Reading → String
  | notANumber => "NaN"
  | infinite negative => (if negative then "-" else "") ++ "inf"
  | zero negative => (if negative then "-" else "") ++ "0.0"
  | finite negative value => (if negative then "-" else "") ++ (shortest value).text

def singleText (bits : UInt32) : String :=
  (Format.single.read bits.toNat).text

def doubleText (bits : UInt64) : String :=
  (Format.double.read bits.toNat).text

end ClassAtlas.Decimal
