import ImageRegistry.Text.Digits
import ImageRegistry.Text.Wide

namespace ImageRegistry.Text

inductive Encoding where
  | utf8
  | utf16 (order : ByteOrder)
  | utf32 (order : ByteOrder)
  deriving DecidableEq, Repr

def ByteOrder.suffix : ByteOrder → String
  | .little => "-le"
  | .big => "-be"

def Encoding.name : Encoding → String
  | .utf8 => "utf-8"
  | .utf16 order => "utf-16" ++ order.suffix
  | .utf32 order => "utf-32" ++ order.suffix

inductive EncodingError where
  | startByte
  | continuationByte
  | endOfData
  | truncated
  | outOfRange
  deriving DecidableEq, Repr

def EncodingError.message : EncodingError → String
  | .startByte => "invalid start byte"
  | .continuationByte => "invalid continuation byte"
  | .endOfData => "unexpected end of data"
  | .truncated => "truncated data"
  | .outOfRange => "code point not in range(0x110000)"

structure Unreadable where
  encoding : Encoding
  error : EncodingError
  first : Nat
  last : Nat
  byte : UInt8
  deriving DecidableEq, Repr

def Unreadable.message (u : Unreadable) : String :=
  let place :=
    if u.first = u.last then
      "byte 0x" ++ String.ofList (padded 16 2 u.byte.toNat) ++ " in position " ++ toString u.first
    else "bytes in position " ++ toString u.first ++ "-" ++ toString u.last
  "'" ++ u.encoding.name ++ "' codec can't decode " ++ place ++ ": " ++ u.error.message

namespace Utf8

def startWithHalves (byte : UInt8) : Start :=
  if byte = 0xED then .pending ⟨0x80, 0xBF, 1, 0xD⟩ else start byte

structure Opened where
  first : Nat
  byte : UInt8
  rest : Pending

def Pending.isHalf (p : Pending) : Bool :=
  p.after = 0 && 0x360 ≤ p.bits && p.bits < 0x380

def Opened.fault (o : Opened) (position : Nat) (error : EncodingError) : Unreadable :=
  if o.rest.isHalf then ⟨.utf8, .continuationByte, o.first, o.first, o.byte⟩
  else ⟨.utf8, error, o.first, position - 1, o.byte⟩

def readFrom : (position : Nat) → Option Opened → List UInt8 → Except Unreadable (List Symbol)
  | _, none, [] => .ok []
  | position, some o, [] => .error (o.fault position .endOfData)
  | position, none, byte :: bytes =>
      match startWithHalves byte with
      | .whole c => (readFrom (position + 1) none bytes).map (.char c :: ·)
      | .pending p => readFrom (position + 1) (some ⟨position, byte, p⟩) bytes
      | .invalid => .error ⟨.utf8, .startByte, position, position, byte⟩
  | position, some o, byte :: bytes =>
      if o.rest.accepts byte then
        match o.rest.after with
        | 0 => (readFrom (position + 1) none bytes).map (.ofCode (o.rest.extend byte) :: ·)
        | after + 1 =>
            readFrom (position + 1)
              (some { o with rest := ⟨0x80, 0xBF, after, o.rest.extend byte⟩ }) bytes
      else .error (o.fault position .continuationByte)

def decode (position : Nat) (bytes : List UInt8) : Except Unreadable (List Symbol) :=
  readFrom position none bytes

end Utf8

namespace Utf16

def codes (order : ByteOrder) : (position : Nat) → List UInt8 → Except Unreadable (List Nat)
  | _, [] => .ok []
  | position, [byte] => .error ⟨.utf16 order, .truncated, position, position, byte⟩
  | position, a :: b :: bytes =>
      (codes order (position + 2) bytes).map (order.value [a, b] :: ·)

def decode (order : ByteOrder) (position : Nat) (bytes : List UInt8) :
    Except Unreadable (List Symbol) :=
  (codes order position bytes).map joinHalves

end Utf16

namespace Utf32

def decode (order : ByteOrder) : (position : Nat) → List UInt8 → Except Unreadable (List Symbol)
  | _, [] => .ok []
  | position, a :: b :: c :: d :: bytes =>
      let code := order.value [a, b, c, d]
      if code < 0x110000 then (decode order (position + 4) bytes).map (.ofCode code :: ·)
      else .error ⟨.utf32 order, .outOfRange, position, position + 3, a⟩
  | position, a :: bytes => .error ⟨.utf32 order, .truncated, position, position + bytes.length, a⟩

end Utf32

def Encoding.decode (encoding : Encoding) (position : Nat) (bytes : List UInt8) :
    Except Unreadable (List Symbol) :=
  match encoding with
  | .utf8 => Utf8.decode position bytes
  | .utf16 order => Utf16.decode order position bytes
  | .utf32 order => Utf32.decode order position bytes

def Encoding.encode : Encoding → List Char → List UInt8
  | .utf8 => Utf8.encode
  | .utf16 order => Utf16.encode order
  | .utf32 order => Utf32.encode order

end ImageRegistry.Text
