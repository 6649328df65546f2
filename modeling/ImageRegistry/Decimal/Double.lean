namespace ImageRegistry.Decimal

inductive Double where
  | nan
  | infinite (negative : Bool)
  | finite (negative : Bool) (significand : Nat) (exponent : Int)
  deriving DecidableEq, Repr

def leastNormal : Nat := Nat.pow 2 52

def scale (base n : Nat) (power : Int) : Nat × Nat :=
  (n * Nat.pow base power.toNat, Nat.pow base (-power).toNat)

def roundQuotient (numerator denominator : Nat) : Nat :=
  let whole := numerator / denominator
  let twice := 2 * (numerator % denominator)
  if twice < denominator then whole
  else if denominator < twice then whole + 1
  else whole + whole % 2

def exponentFor (numerator denominator : Nat) : Int :=
  let guess : Int := (numerator.log2 : Int) - denominator.log2 - 52
  let (n, d) := scale 2 numerator (-guess)
  max (-1074) (if n < leastNormal * (denominator * d) then guess - 1 else guess)

def ofQuotient (negative : Bool) (numerator denominator : Nat) : Double :=
  let exponent := exponentFor numerator denominator
  let (n, d) := scale 2 numerator (-exponent)
  let significand := roundQuotient n (denominator * d)
  let (significand, exponent) :=
    if significand = 2 * leastNormal then (leastNormal, exponent + 1) else (significand, exponent)
  if 971 < exponent then .infinite negative else .finite negative significand exponent

def Double.ofDecimal (negative : Bool) (n : Nat) (power : Int) : Double :=
  let magnitude : Int := (Nat.toDigits 10 n).length + power
  if n = 0 ∨ magnitude < -400 then .finite negative 0 (-1074)
  else if 400 < magnitude then .infinite negative
  else
    let (numerator, denominator) := scale 10 n power
    ofQuotient negative numerator denominator

def Double.isZero : Double → Bool
  | .finite _ significand _ => significand == 0
  | _ => false

end ImageRegistry.Decimal
