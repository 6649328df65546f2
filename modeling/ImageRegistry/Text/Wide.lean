import ImageRegistry.Text.Symbol

namespace ImageRegistry.Text

inductive ByteOrder where
  | little
  | big
  deriving DecidableEq, Repr

def ByteOrder.value : ByteOrder → List UInt8 → Nat
  | .little, bytes => bytes.foldr (fun byte value => byte.toNat + 256 * value) 0
  | .big, bytes => bytes.foldl (fun value byte => 256 * value + byte.toNat) 0

def ByteOrder.write (order : ByteOrder) (width n : Nat) : List UInt8 :=
  let bytes := (List.range width).map fun i => UInt8.ofNat (n / Nat.pow 256 i % 256)
  match order with
  | .little => bytes
  | .big => bytes.reverse

def isHighHalf (code : Nat) : Bool := 0xD800 ≤ code && code ≤ 0xDBFF

def isLowHalf (code : Nat) : Bool := 0xDC00 ≤ code && code ≤ 0xDFFF

def joinPair? (high low : Nat) : Option Char :=
  if isHighHalf high && isLowHalf low then
    some (Char.ofNat (0x10000 + (high - 0xD800) * 0x400 + (low - 0xDC00)))
  else none

def joinHalves : List Nat → List Symbol
  | [] => []
  | [code] => [.ofCode code]
  | high :: low :: codes =>
      match joinPair? high low with
      | some c => .char c :: joinHalves codes
      | none => .ofCode high :: joinHalves (low :: codes)

namespace Utf16

def encodeChar (order : ByteOrder) (c : Char) : List UInt8 :=
  let n := c.toNat
  if n < 0x10000 then order.write 2 n
  else
    order.write 2 (0xD800 + (n - 0x10000) / 0x400) ++ order.write 2 (0xDC00 + (n - 0x10000) % 0x400)

def encode (order : ByteOrder) (text : List Char) : List UInt8 :=
  text.flatMap (encodeChar order)

end Utf16

namespace Utf32

def encode (order : ByteOrder) (text : List Char) : List UInt8 :=
  text.flatMap fun c => order.write 4 c.toNat

end Utf32

end ImageRegistry.Text
