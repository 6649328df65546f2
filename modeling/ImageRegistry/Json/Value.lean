import ImageRegistry.Decimal.Double
import ImageRegistry.Text.Symbol

namespace ImageRegistry

open Decimal Text

inductive Json where
  | null
  | bool (value : Bool)
  | int (value : Int)
  | double (value : Double)
  | str (value : List Symbol)
  | arr (items : List Json)
  | obj (members : List (List Symbol × Json))
  deriving Repr

namespace Json

mutual

def decEq (a b : Json) : Decidable (a = b) :=
  if h : a.ctorIdx = b.ctorIdx then
    match a, b with
    | null, null => isTrue rfl
    | bool a, bool b => decidable_of_iff (a = b) (by rw [bool.injEq])
    | int a, int b => decidable_of_iff (a = b) (by rw [int.injEq])
    | double a, double b => decidable_of_iff (a = b) (by rw [double.injEq])
    | str a, str b => decidable_of_iff (a = b) (by rw [str.injEq])
    | arr a, arr b =>
        have := decEqItems a b
        decidable_of_iff (a = b) (by rw [arr.injEq])
    | obj a, obj b =>
        have := decEqMembers a b
        decidable_of_iff (a = b) (by rw [obj.injEq])
  else isFalse fun he => h (congrArg Json.ctorIdx he)

def decEqItems : (a b : List Json) → Decidable (a = b)
  | [], [] => isTrue rfl
  | [], _ :: _ | _ :: _, [] => isFalse nofun
  | a :: as, b :: bs =>
      have := decEq a b
      have := decEqItems as bs
      decidable_of_iff (a = b ∧ as = bs) List.cons_eq_cons.symm

def decEqMembers : (a b : List (List Symbol × Json)) → Decidable (a = b)
  | [], [] => isTrue rfl
  | [], _ :: _ | _ :: _, [] => isFalse nofun
  | (name, a) :: as, (other, b) :: bs =>
      have := decEq a b
      have := decEqMembers as bs
      decidable_of_iff ((name = other ∧ a = b) ∧ as = bs)
        (by rw [List.cons_eq_cons, Prod.mk.injEq])

end

instance : DecidableEq Json := decEq

abbrev Members := List (List Symbol × Json)

def text (value : String) : Json :=
  .str (symbols value)

def member? (name : String) (members : Members) : Option Json :=
  members.lookup (symbols name)

def given? (name : String) (members : Members) : Option Json :=
  match member? name members with
  | some .null => none
  | value => value

def isTruthy : Json → Bool
  | null => false
  | bool value => value
  | int value => value != 0
  | double value => !value.isZero
  | str value => !value.isEmpty
  | arr items => !items.isEmpty
  | obj members => !members.isEmpty

end Json

def putPair {κ ν : Type} (same : κ → κ → Bool) (key : κ) (value : ν) :
    List (κ × ν) → List (κ × ν)
  | [] => [(key, value)]
  | (k, v) :: pairs =>
      if same k key then (k, value) :: pairs else (k, v) :: putPair same key value pairs

theorem keys_putPair {κ ν : Type} (same : κ → κ → Bool) (key : κ) (value : ν)
    (pairs : List (κ × ν)) :
    (putPair same key value pairs).map Prod.fst =
      pairs.map Prod.fst ++ (if pairs.any fun pair => same pair.1 key then [] else [key]) := by
  induction pairs with
  | nil => rfl
  | cons pair pairs ih =>
      cases h : same pair.1 key with
      | true => simp [putPair, h]
      | false => simp only [putPair, h, Bool.false_eq_true, if_false, List.map_cons, ih,
          List.cons_append, List.any_cons, Bool.false_or]

end ImageRegistry
