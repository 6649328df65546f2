import ImageRegistry.Text.Cut

namespace ImageRegistry.Text

def digitValue (c : Char) : Nat :=
  c.toNat - '0'.toNat

def decimalValue (digits : List Char) : Nat :=
  digits.foldl (fun value c => 10 * value + digitValue c) 0

def isSpace (c : Char) : Bool :=
  c == ' ' || (0x9 ≤ c.toNat && c.toNat ≤ 0xD)

def isDigitMark (c : Char) : Bool :=
  c.isDigit || c == '_'

-- Digits in groups with one underscore between two of them, and blanks behind.
def natural? (text : List Char) : Option Nat :=
  let groups := pieces '_' (text.takeWhile isDigitMark)
  if (text.dropWhile isDigitMark).all isSpace && groups.all (fun group => !group.isEmpty) then
    some (decimalValue groups.flatten)
  else none

def integer? (text : List Char) : Option Int :=
  match text.dropWhile isSpace with
  | '-' :: digits => (natural? digits).map fun n : Nat => -(n : Int)
  | '+' :: digits => (natural? digits).map fun n : Nat => (n : Int)
  | digits => (natural? digits).map fun n : Nat => (n : Int)

def hexValue? (c : Char) : Option Nat :=
  if c.isDigit then some (c.toNat - '0'.toNat)
  else if 'a' ≤ c && c ≤ 'f' then some (c.toNat - 'a'.toNat + 10)
  else if 'A' ≤ c && c ≤ 'F' then some (c.toNat - 'A'.toNat + 10)
  else none

def padded (base width n : Nat) : List Char :=
  let digits := Nat.toDigits base n
  List.replicate (width - digits.length) '0' ++ digits

def decimal (n : Nat) : List Char :=
  Nat.toDigits 10 n

def signedDecimal : Int → List Char
  | .ofNat n => decimal n
  | .negSucc n => '-' :: decimal (n + 1)

def groupReversed : List Char → List Char
  | a :: b :: c :: d :: rest => a :: b :: c :: ',' :: groupReversed (d :: rest)
  | digits => digits

def grouped (n : Int) : List Char :=
  let digits := (groupReversed (decimal n.natAbs).reverse).reverse
  if n < 0 then '-' :: digits else digits

end ImageRegistry.Text
