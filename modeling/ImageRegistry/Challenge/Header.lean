import ImageRegistry.Challenge.Lexeme
import ImageRegistry.Json.Value
import ImageRegistry.Text.Fold

namespace ImageRegistry.Challenge

open Text

inductive Item where
  | word (text : List Symbol)
  | pair (name value : List Symbol)
  | equals
  | comma
  deriving DecidableEq, Repr

def Lexeme.item : Lexeme → Item
  | .word text => .word text
  | .equals => .equals
  | .comma => .comma

def items : List Lexeme → List Item
  | .word name :: .equals :: .word value :: rest => .pair name value :: items rest
  | lexeme :: rest => lexeme.item :: items rest
  | [] => []

def Item.isPair : Item → Bool
  | .pair _ _ => true
  | _ => false

def startsWithPair : List Item → Bool
  | item :: _ => item.isPair
  | [] => false

def takeParameters : List Item → List Item × List Item
  | pair :: separator :: rest =>
      if startsWithPair rest then
        let parameters := takeParameters rest
        (pair :: separator :: parameters.1, parameters.2)
      else ([pair], rest)
  | items => (items, [])

theorem length_takeParameters (items : List Item) :
    (takeParameters items).2.length ≤ items.length := by
  fun_induction takeParameters items with
  | case1 pair separator rest _ parameters ih =>
      simp only [parameters, List.length_cons] at ih ⊢
      omega
  | case2 => simp; omega
  | case3 => simp

structure Group where
  name : Item
  contents : List Item
  deriving DecidableEq, Repr

-- The first item begins a challenge, whatever it is. An equals sign behind it belongs to none and
-- is taken as the name of the next one.
def groups : List Item → List Group
  | [] => []
  | [name] => [⟨name, []⟩]
  | name :: .comma :: rest => ⟨name, []⟩ :: groups rest
  | name :: .word text :: rest => ⟨name, [.word text]⟩ :: groups (rest.drop 1)
  | name :: .equals :: rest => ⟨name, []⟩ :: groups (.equals :: rest)
  | name :: .pair key value :: rest =>
      let parameters := takeParameters (.pair key value :: rest)
      ⟨name, parameters.1⟩ :: groups parameters.2
termination_by items => items.length
decreasing_by
  · simp only [List.length_cons]
    omega
  · simp only [List.length_cons, List.length_drop]
    omega
  · simp only [List.length_cons]
    omega
  · exact Nat.lt_of_le_of_lt (length_takeParameters _) (by simp)

inductive Raw where
  | bare
  | word (text : List Symbol)
  | fields (fields : List (List Symbol × List Symbol))
  deriving DecidableEq, Repr

def Item.word? : Item → Option (List Symbol)
  | .word text => some text
  | _ => none

def Item.pair? : Item → Option (List Symbol × List Symbol)
  | .pair name value => some (name, value)
  | _ => none

def table (pairs : List (List Symbol × List Symbol)) : List (List Symbol × List Symbol) :=
  pairs.foldl (fun fields pair => putPair (· == ·) pair.1 pair.2 fields) []

def Raw.ofItems (contents : List Item) : Raw :=
  match contents.filterMap Item.word? with
  | text :: _ => .word text
  | [] =>
      match table (contents.filterMap Item.pair?) with
      | [] => .bare
      | named => .fields named

inductive HeaderFault where
  | unreadable
  | nameless
  deriving DecidableEq, Repr

def Item.name : Item → Except HeaderFault (List Symbol)
  | .word text => .ok text
  | .equals => .ok ['=']
  | .comma => .ok [',']
  | .pair _ _ => .error .nameless

def collect (groups : List Group) : Except HeaderFault (List (List Symbol × Raw)) :=
  groups.foldlM
    (fun challenges group => do
      let name ← group.name.name
      pure (putPair (· == ·) (foldCase name) (Raw.ofItems group.contents) challenges))
    []

def readHeader (text : List Symbol) : Except HeaderFault (List (List Symbol × Raw)) :=
  match lexemes? text with
  | some lexemes => collect (groups (items lexemes))
  | none => .error .unreadable

end ImageRegistry.Challenge
