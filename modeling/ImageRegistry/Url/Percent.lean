import ImageRegistry.Text.Digits
import ImageRegistry.Text.Symbol

namespace ImageRegistry.Url

open Text

def isUnreserved (c : Char) : Bool :=
  c.isAlphanum || c == '_' || c == '.' || c == '-' || c == '~'

def hexDigit (n : Nat) : Char :=
  if n < 10 then Char.ofNat ('0'.toNat + n) else Char.ofNat ('A'.toNat + (n - 10))

def encodeByte (byte : UInt8) : List Char :=
  ['%', hexDigit (byte.toNat / 16), hexDigit (byte.toNat % 16)]

def encodeChar (c : Char) : List Char :=
  if isUnreserved c then [c]
  else if c = ' ' then ['+']
  else (Utf8.encodeChar c).flatMap encodeByte

-- There is nothing to write for half of a pair.
def encodeSymbol? : Symbol → Option (List Char)
  | .char c => some (encodeChar c)
  | .half _ => none

def encode? (text : List Symbol) : Option (List Char) :=
  (text.mapM encodeSymbol?).map List.flatten

def byte? (a b : Char) : Option UInt8 := do
  let high ← hexValue? a
  let low ← hexValue? b
  pure (UInt8.ofNat (16 * high + low))

def bytes : List Char → List UInt8
  | [] => []
  | [c] => Utf8.encodeChar c
  | [c, d] => Utf8.encodeChar c ++ Utf8.encodeChar d
  | c :: a :: b :: rest =>
      match if c = '%' then byte? a b else none with
      | some byte => byte :: bytes rest
      | none => Utf8.encodeChar c ++ bytes (a :: b :: rest)

def plusToSpace (c : Char) : Char :=
  if c = '+' then ' ' else c

def decodeRun (run : List Char) : List Char :=
  Utf8.decodeLossy (bytes (run.map plusToSpace))

-- Halves stay as they are; what stands between them is read run by run.
def decodeBehind (run : List Char) : List Symbol → List Symbol
  | [] => symbolsOf (decodeRun run)
  | .char c :: text => decodeBehind (run ++ [c]) text
  | .half code :: text => symbolsOf (decodeRun run) ++ .half code :: decodeBehind [] text

def decode (text : List Symbol) : List Symbol :=
  decodeBehind [] text

end ImageRegistry.Url
