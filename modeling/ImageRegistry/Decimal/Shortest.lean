import ImageRegistry.Decimal.Double

namespace ImageRegistry.Decimal

structure Bracket where
  low : Nat
  value : Nat
  high : Nat
  denominator : Nat
  closed : Bool
  deriving Repr

def bracket (significand : Nat) (exponent : Int) : Bracket :=
  let step := if significand = leastNormal ∧ -1074 < exponent then 1 else 2
  let factor := Nat.pow 2 exponent.toNat
  { low := (4 * significand - step) * factor
    value := 4 * significand * factor
    high := (4 * significand + 2) * factor
    denominator := 4 * Nat.pow 2 (-exponent).toNat
    closed := significand % 2 == 0 }

def Bracket.holds (b : Bracket) (numerator : Nat) : Bool :=
  if b.closed then b.low ≤ numerator && numerator ≤ b.high
  else b.low < numerator && numerator < b.high

def Bracket.shift (b : Bracket) (power : Int) : Bracket :=
  let up := Nat.pow 10 power.toNat
  { b with
    low := b.low * up
    value := b.value * up
    high := b.high * up
    denominator := b.denominator * Nat.pow 10 (-power).toNat }

def Bracket.onGrid? (b : Bracket) (power : Int) : Option Nat :=
  let s := b.shift (-power)
  let below := s.value / s.denominator
  let above := below + 1
  let fits := fun n => s.holds (n * s.denominator)
  if fits below && fits above then some (roundQuotient s.value s.denominator)
  else if fits below then some below
  else if fits above then some above
  else none

def Bracket.magnitude (b : Bracket) : Int :=
  (Nat.toDigits 10 (b.value * Nat.pow 10 400 / b.denominator)).length - 401

structure Digits where
  digits : Nat
  power : Int
  deriving DecidableEq, Repr

def Bracket.search (b : Bracket) (power : Int) : Nat → Digits
  | 0 => ⟨b.value / b.denominator, 0⟩
  | tries + 1 =>
      match b.onGrid? power with
      | some digits => ⟨digits, power⟩
      | none => b.search (power - 1) tries

def shortest (significand : Nat) (exponent : Int) : Digits :=
  let b := bracket significand exponent
  b.search b.magnitude 17

end ImageRegistry.Decimal
