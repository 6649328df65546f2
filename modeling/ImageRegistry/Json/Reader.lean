import ImageRegistry.Json.Value
import ImageRegistry.Text.Digits
import ImageRegistry.Text.Wide

namespace ImageRegistry.Json

open Decimal Text

inductive Mistake where
  | value
  | name
  | colon
  | comma
  | unterminated
  | control
  | escape
  | codeEscape
  | extra
  deriving DecidableEq, Repr

inductive Refusal where
  | mistake (kind : Mistake) (left : Nat)
  | longInteger (digits : Nat)
  deriving DecidableEq, Repr

abbrev Reading (α : Type) := Except Refusal (α × List Symbol)

def isJsonBlank (symbol : Symbol) : Bool :=
  symbol == .char ' ' || symbol == .char '\t' || symbol == .char '\n' || symbol == .char '\r'

def skipBlank (text : List Symbol) : List Symbol :=
  text.dropWhile isJsonBlank

def unescape : Symbol → Option Char
  | .char '"' => some '"'
  | .char '\\' => some '\\'
  | .char '/' => some '/'
  | .char 'b' => some '\x08'
  | .char 'f' => some '\x0c'
  | .char 'n' => some '\n'
  | .char 'r' => some '\r'
  | .char 't' => some '\t'
  | _ => none

def hexSymbol? : Symbol → Option Nat
  | .char c => hexValue? c
  | .half _ => none

def hexCode? (a b c d : Symbol) : Option Nat := do
  let a ← hexSymbol? a
  let b ← hexSymbol? b
  let c ← hexSymbol? c
  let d ← hexSymbol? d
  pure (((a * 16 + b) * 16 + c) * 16 + d)

inductive Piece where
  | plain (symbol : Symbol)
  | code (code : Nat)
  deriving DecidableEq, Repr

def joinPieces : List Piece → List Symbol
  | [] => []
  | .plain symbol :: pieces => symbol :: joinPieces pieces
  | .code high :: .code low :: pieces =>
      match joinPair? high low with
      | some c => .char c :: joinPieces pieces
      | none => .ofCode high :: joinPieces (.code low :: pieces)
  | .code code :: pieces => .ofCode code :: joinPieces pieces

def consPiece (piece : Piece) : Reading (List Piece) → Reading (List Piece) :=
  Except.map fun read => (piece :: read.1, read.2)

def isControl : Symbol → Bool
  | .char c => c.toNat < 0x20
  | .half _ => false

def readPieces (opening : Nat) : List Symbol → Reading (List Piece)
  | [] => .error (.mistake .unterminated opening)
  | .char '"' :: rest => .ok ([], rest)
  | [.char '\\'] => .error (.mistake .unterminated opening)
  | .char '\\' :: .char 'u' :: a :: b :: c :: d :: rest =>
      match hexCode? a b c d with
      | some code =>
          if rest.isEmpty then .error (.mistake .codeEscape 5)
          else consPiece (.code code) (readPieces opening rest)
      | none => .error (.mistake .codeEscape (rest.length + 5))
  | .char '\\' :: symbol :: rest =>
      match unescape symbol with
      | some c => consPiece (.plain (.char c)) (readPieces opening rest)
      | none =>
          if symbol = .char 'u' then .error (.mistake .codeEscape (rest.length + 1))
          else .error (.mistake .escape (rest.length + 2))
  | symbol :: rest =>
      if isControl symbol then .error (.mistake .control (rest.length + 1))
      else consPiece (.plain symbol) (readPieces opening rest)

def readText (text : List Symbol) : Reading (List Symbol) :=
  (readPieces (text.length + 1) text).map fun read => (joinPieces read.1, read.2)

def takeDigits : List Symbol → List Char × List Symbol
  | .char c :: rest =>
      if c.isDigit then
        let read := takeDigits rest
        (c :: read.1, read.2)
      else ([], .char c :: rest)
  | text => ([], text)

def readWhole : List Symbol → Option (List Char × List Symbol)
  | .char '0' :: rest => some (['0'], rest)
  | text => if (takeDigits text).1.isEmpty then none else some (takeDigits text)

def readPlaces : List Symbol → List Char × List Symbol
  | .char '.' :: rest =>
      if (takeDigits rest).1.isEmpty then ([], .char '.' :: rest) else takeDigits rest
  | text => ([], text)

def readSign : List Symbol → Bool × List Symbol
  | .char '-' :: rest => (true, rest)
  | .char '+' :: rest => (false, rest)
  | text => (false, text)

def readPower : List Symbol → Option Int × List Symbol
  | symbol :: rest =>
      if symbol = .char 'e' ∨ symbol = .char 'E' then
        let (negative, text) := readSign rest
        let (digits, rest') := takeDigits text
        let power : Int := decimalValue digits
        if digits.isEmpty then (none, symbol :: rest)
        else (some (if negative then -power else power), rest')
      else (none, symbol :: rest)
  | [] => (none, [])

def integerLimit : Nat := 4300

def integer (negative : Bool) (digits : List Char) : Except Refusal Json :=
  if integerLimit < digits.length then .error (.longInteger digits.length)
  else
    let value : Int := decimalValue digits
    .ok (.int (if negative then -value else value))

def readNumber (text : List Symbol) : Reading Json :=
  let negative := text.head? == some (.char '-')
  match readWhole (if negative then text.drop 1 else text) with
  | none => .error (.mistake .value text.length)
  | some (whole, rest) =>
      let (places, rest) := readPlaces rest
      let (power, rest) := readPower rest
      if places.isEmpty && power.isNone then (integer negative whole).map fun value => (value, rest)
      else
        let digits := decimalValue (whole ++ places)
        .ok (.double (.ofDecimal negative digits (power.getD 0 - places.length)), rest)

def words : List (List Symbol × Json) :=
  [(symbols "null", .null), (symbols "true", .bool true), (symbols "false", .bool false),
   (symbols "NaN", .double .nan), (symbols "Infinity", .double (.infinite false)),
   (symbols "-Infinity", .double (.infinite true))]

def readWord? (text : List Symbol) : Option (Json × List Symbol) :=
  (words.find? fun word => word.1.isPrefixOf text).map fun word =>
    (word.2, text.drop word.1.length)

def ofPairs (pairs : Members) : Json :=
  .obj (pairs.foldl (fun members pair => putPair (· == ·) pair.1 pair.2 members) [])

def readName : List Symbol → Except Refusal (List Symbol × List Symbol)
  | .char '"' :: rest => do
      let (name, rest) ← readText rest
      match skipBlank rest with
      | .char ':' :: rest => pure (name, skipBlank rest)
      | rest => throw (.mistake .colon rest.length)
  | text => throw (.mistake .name text.length)

mutual

def readValue : (fuel : Nat) → List Symbol → Reading Json
  | 0, text => .error (.mistake .value text.length)
  | fuel + 1, text =>
      match text with
      | .char '"' :: rest => (readText rest).map fun read => (.str read.1, read.2)
      | .char '{' :: rest =>
          match skipBlank rest with
          | .char '}' :: rest => .ok (.obj [], rest)
          | rest => (readMembers fuel rest).map fun read => (ofPairs read.1, read.2)
      | .char '[' :: rest =>
          match skipBlank rest with
          | .char ']' :: rest => .ok (.arr [], rest)
          | rest => (readItems fuel rest).map fun read => (.arr read.1, read.2)
      | text =>
          match readWord? text with
          | some read => .ok read
          | none => readNumber text

def readItems : (fuel : Nat) → List Symbol → Except Refusal (List Json × List Symbol)
  | 0, text => .error (.mistake .value text.length)
  | fuel + 1, text => do
      let (item, rest) ← readValue fuel text
      match skipBlank rest with
      | .char ']' :: rest => pure ([item], rest)
      | .char ',' :: rest =>
          let (items, rest) ← readItems fuel (skipBlank rest)
          pure (item :: items, rest)
      | rest => throw (.mistake .comma rest.length)

def readMembers :
    (fuel : Nat) → List Symbol → Except Refusal (Members × List Symbol)
  | 0, text => .error (.mistake .value text.length)
  | fuel + 1, text => do
      let (name, rest) ← readName text
      let (value, rest) ← readValue fuel rest
      match skipBlank rest with
      | .char '}' :: rest => pure ([(name, value)], rest)
      | .char ',' :: rest =>
          let (members, rest) ← readMembers fuel (skipBlank rest)
          pure ((name, value) :: members, rest)
      | rest => throw (.mistake .comma rest.length)

end

-- The fuel suffices for every text: arrays and objects may nest to any depth, where a stack of
-- calls has an end.
def readDocument (text : List Symbol) : Except Refusal Json := do
  let (value, rest) ← readValue (2 * text.length + 2) (skipBlank text)
  match skipBlank rest with
  | [] => pure value
  | rest => throw (.mistake .extra rest.length)

end ImageRegistry.Json
