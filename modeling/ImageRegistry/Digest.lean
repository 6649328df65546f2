import ImageRegistry.Json.Value
import ImageRegistry.Text.Cut

namespace ImageRegistry.Digest

open Text

def isHexDigit (c : Char) : Bool :=
  c.isDigit || ('a' ≤ c && c ≤ 'f')

def width? (algorithm : List Char) : Option Nat :=
  if algorithm = "sha256".toList then some 64
  else if algorithm = "sha512".toList then some 128
  else none

def isDigest (text : List Char) : Bool :=
  match cutFirst ':' text with
  | some (algorithm, digits) =>
      width? algorithm == some digits.length && (withoutFinalBreak digits).all isHexDigit
  | none => false

def isDigestValue : Json → Bool
  | .str text => isDigest (charsOf text)
  | _ => false

end ImageRegistry.Digest
