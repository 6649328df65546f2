import ImageRegistry.Decimal.Shortest
import ImageRegistry.Text.Digits

namespace ImageRegistry.Decimal

open Text

def significantDigits (d : Digits) : List Char :=
  ((decimal d.digits).reverse.dropWhile (· == '0')).reverse

def Digits.exponent (d : Digits) : Int :=
  (decimal d.digits).length - 1 + d.power

def positional (digits : List Char) (exponent : Int) : List Char :=
  if exponent < 0 then
    '0' :: '.' :: List.replicate (-exponent - 1).toNat '0' ++ digits
  else
    let count := exponent.toNat + 1
    let whole := digits.take count ++ List.replicate (count - digits.length) '0'
    let places := digits.drop count
    whole ++ '.' :: (if places.isEmpty then ['0'] else places)

def scientific (digits : List Char) (exponent : Int) : List Char :=
  let places := digits.drop 1
  let sign := if exponent < 0 then '-' else '+'
  digits.take 1 ++ (if places.isEmpty then [] else '.' :: places) ++
    'e' :: sign :: padded 10 2 exponent.natAbs

def writeFinite (significand : Nat) (exponent : Int) : List Char :=
  if significand = 0 then ['0', '.', '0']
  else
    let d := shortest significand exponent
    let digits := significantDigits d
    if -4 ≤ d.exponent ∧ d.exponent < 16 then positional digits d.exponent
    else scientific digits d.exponent

def signed (negative : Bool) (text : List Char) : List Char :=
  if negative then '-' :: text else text

def Double.write : Double → List Char
  | .nan => "nan".toList
  | .infinite negative => signed negative "inf".toList
  | .finite negative significand exponent => signed negative (writeFinite significand exponent)

end ImageRegistry.Decimal
