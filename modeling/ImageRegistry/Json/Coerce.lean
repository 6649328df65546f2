import ImageRegistry.Json.Value

namespace ImageRegistry.Json

open Decimal

inductive ConversionError where
  | notSequence
  | notPair
  | badKey
  deriving DecidableEq, Repr

abbrev Table := List (Json × Json)

def elements? : Json → Option (List Json)
  | arr items => some items
  | str value => some (value.map fun symbol => .str [symbol])
  | obj members => some (members.map fun member => .str member.1)
  | _ => none

def toList (value : Json) : Except ConversionError (List Json) :=
  match value.elements? with
  | some items => .ok items
  | none => .error .notSequence

inductive Number where
  | nan
  | infinite (negative : Bool)
  | quotient (numerator : Int) (denominator : Nat)
  deriving DecidableEq, Repr

def number? : Json → Option Number
  | bool value => some (.quotient value.toNat 1)
  | int value => some (.quotient value 1)
  | double .nan => some .nan
  | double (.infinite negative) => some (.infinite negative)
  | double (.finite negative significand exponent) =>
      let (numerator, denominator) := scale 2 significand exponent
      some (.quotient (if negative then -(numerator : Int) else numerator) denominator)
  | _ => none

def Number.same : Number → Number → Bool
  | .quotient a b, .quotient c d => a * d == c * b
  | a, b => a == b

def sameKey : Json → Json → Bool
  | null, null => true
  | str a, str b => a == b
  | a, b =>
      match a.number?, b.number? with
      | some x, some y => x.same y
      | _, _ => false

def isKey : Json → Bool
  | arr _ => false
  | obj _ => false
  | _ => true

def toPair (value : Json) : Except ConversionError (Json × Json) :=
  match value.elements? with
  | some [key, entry] => if key.isKey then .ok (key, entry) else .error .badKey
  | some _ => .error .notPair
  | none => .error .notSequence

def toTable : Json → Except ConversionError Table
  | obj members => .ok (members.map fun member => (.str member.1, member.2))
  | value => do
      let items ← value.toList
      let pairs ← items.mapM toPair
      pure (pairs.foldl (fun table pair => putPair sameKey pair.1 pair.2 table) [])

def orEmpty {α : Type} (convert : Json → Except ConversionError (List α)) :
    Option Json → Except ConversionError (List α)
  | some value => if value.isTruthy then convert value else .ok []
  | none => .ok []

end ImageRegistry.Json
