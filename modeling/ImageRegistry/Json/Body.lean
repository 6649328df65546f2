import ImageRegistry.Json.Reader
import ImageRegistry.Text.Encoding

namespace ImageRegistry.Json

open Text

inductive Malformed where
  | unreadable (bytes : Unreadable)
  | marked
  | mistake (kind : Mistake) (before : List Symbol)
  | longInteger (digits : Nat)
  deriving DecidableEq, Repr

def Mistake.message : Mistake → String
  | .value => "Expecting value"
  | .name => "Expecting property name enclosed in double quotes"
  | .colon => "Expecting ':' delimiter"
  | .comma => "Expecting ',' delimiter"
  | .unterminated => "Unterminated string starting at"
  | .control => "Invalid control character at"
  | .escape => "Invalid \\escape"
  | .codeEscape => "Invalid \\uXXXX escape"
  | .extra => "Extra data"

def placeAfter (text : List Symbol) : String :=
  let line := text.count (.char '\n') + 1
  let column := (text.reverse.takeWhile (· ≠ .char '\n')).length + 1
  ": line " ++ toString line ++ " column " ++ toString column ++
    " (char " ++ toString text.length ++ ")"

def Malformed.message : Malformed → String
  | .unreadable bytes => bytes.message
  | .marked => "Unexpected UTF-8 BOM (decode using utf-8-sig)" ++ placeAfter []
  | .mistake kind before => kind.message ++ placeAfter before
  | .longInteger digits =>
      "Exceeds the limit (" ++ toString integerLimit ++
        " digits) for integer string conversion: value has " ++ toString digits ++
        " digits; use sys.set_int_max_str_digits() to increase the limit"

def Refusal.within (text : List Symbol) : Refusal → Malformed
  | .mistake kind left => .mistake kind (text.take (text.length - left))
  | .longInteger digits => .longInteger digits

def ofDocument (text : List Symbol) : Except Malformed Json :=
  (readDocument text).mapError (Refusal.within text)

def byteOrderMark : Char := '\uFEFF'

def ofText (text : List Symbol) : Except Malformed Json :=
  if text.head? = some (.char byteOrderMark) then .error .marked else ofDocument text

-- The mark of one width begins with that of another, so that the order counts.
def marks : List (List UInt8 × Encoding) :=
  [([0x00, 0x00, 0xFE, 0xFF], .utf32 .big), ([0xFF, 0xFE, 0x00, 0x00], .utf32 .little),
   ([0xFE, 0xFF], .utf16 .big), ([0xFF, 0xFE], .utf16 .little), ([0xEF, 0xBB, 0xBF], .utf8)]

def unmarkedEncoding : List UInt8 → Encoding
  | a :: b :: c :: d :: _ =>
      if a = 0 then (if b = 0 then .utf32 .big else .utf16 .big)
      else if b = 0 then (if c = 0 ∧ d = 0 then .utf32 .little else .utf16 .little)
      else .utf8
  | [a, b] => if a = 0 then .utf16 .big else if b = 0 then .utf16 .little else .utf8
  | _ => .utf8

def decodeBody (bytes : List UInt8) : Except Unreadable (List Symbol) :=
  match marks.find? fun mark => mark.1.isPrefixOf bytes with
  | some (mark, encoding) =>
      encoding.decode (if encoding = .utf8 then 0 else mark.length) (bytes.drop mark.length)
  | none => (unmarkedEncoding bytes).decode 0 bytes

def ofBytes (bytes : List UInt8) : Except Malformed Json :=
  match decodeBody bytes with
  | .ok text => ofDocument text
  | .error unreadable => .error (.unreadable unreadable)

end ImageRegistry.Json
