import ImageRegistry.Decimal.Notation
import ImageRegistry.Json.Value
import ImageRegistry.Text.Quoted

namespace ImageRegistry.Json

open Text

def listed (items : List (List Char)) : List Char :=
  (items.intersperse [',', ' ']).flatten

mutual

def display : Json → List Char
  | null => "None".toList
  | bool true => "True".toList
  | bool false => "False".toList
  | int value => signedDecimal value
  | double value => value.write
  | str value => quotedSymbols value
  | arr items => '[' :: listed (displayItems items) ++ [']']
  | obj members => '\x7b' :: listed (displayMembers members) ++ ['\x7d']

def displayItems : List Json → List (List Char)
  | [] => []
  | item :: items => display item :: displayItems items

def displayMembers : List (List Symbol × Json) → List (List Char)
  | [] => []
  | (name, value) :: members =>
      (quotedSymbols name ++ ':' :: ' ' :: display value) :: displayMembers members

end

def shown (value : Json) : String :=
  String.ofList value.display

def plain : Json → String
  | str value => textOf value
  | value => value.shown

end ImageRegistry.Json
