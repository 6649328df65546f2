namespace ImageRegistry.Text

def replacement : Char := '\uFFFD'

def scalar (code : Nat) : Char :=
  if code.isValidChar then Char.ofNat code else replacement

namespace Utf8

def encodeChar (c : Char) : List UInt8 :=
  let n := c.toNat
  if n < 0x80 then [UInt8.ofNat n]
  else if n < 0x800 then [UInt8.ofNat (0xC0 + n / 64), UInt8.ofNat (0x80 + n % 64)]
  else if n < 0x10000 then
    [UInt8.ofNat (0xE0 + n / 4096), UInt8.ofNat (0x80 + n / 64 % 64), UInt8.ofNat (0x80 + n % 64)]
  else
    [UInt8.ofNat (0xF0 + n / 262144), UInt8.ofNat (0x80 + n / 4096 % 64),
     UInt8.ofNat (0x80 + n / 64 % 64), UInt8.ofNat (0x80 + n % 64)]

def encode (text : List Char) : List UInt8 :=
  text.flatMap encodeChar

structure Pending where
  low : Nat
  high : Nat
  after : Nat
  bits : Nat
  deriving DecidableEq, Repr

inductive Start where
  | whole (c : Char)
  | pending (p : Pending)
  | invalid
  deriving DecidableEq, Repr

def start (byte : UInt8) : Start :=
  let n := byte.toNat
  if n < 0x80 then .whole (scalar n)
  else if n < 0xC2 then .invalid
  else if n < 0xE0 then .pending ⟨0x80, 0xBF, 0, n - 0xC0⟩
  else if n = 0xE0 then .pending ⟨0xA0, 0xBF, 1, 0⟩
  else if n = 0xED then .pending ⟨0x80, 0x9F, 1, 0xD⟩
  else if n < 0xF0 then .pending ⟨0x80, 0xBF, 1, n - 0xE0⟩
  else if n = 0xF0 then .pending ⟨0x90, 0xBF, 2, 0⟩
  else if n < 0xF4 then .pending ⟨0x80, 0xBF, 2, n - 0xF0⟩
  else if n = 0xF4 then .pending ⟨0x80, 0x8F, 2, 4⟩
  else .invalid

def Pending.accepts (p : Pending) (byte : UInt8) : Bool :=
  p.low ≤ byte.toNat && byte.toNat ≤ p.high

def Pending.extend (p : Pending) (byte : UInt8) : Nat :=
  p.bits * 64 + (byte.toNat - 0x80)

def units : Option Pending → List UInt8 → List (Option Char)
  | none, [] => []
  | some _, [] => [none]
  | none, byte :: bytes =>
      match start byte with
      | .whole c => some c :: units none bytes
      | .pending p => units (some p) bytes
      | .invalid => none :: units none bytes
  | some p, byte :: bytes =>
      if p.accepts byte then
        match p.after with
        | 0 => some (scalar (p.extend byte)) :: units none bytes
        | after + 1 => units (some ⟨0x80, 0xBF, after, p.extend byte⟩) bytes
      else
        match start byte with
        | .whole c => none :: some c :: units none bytes
        | .pending q => none :: units (some q) bytes
        | .invalid => none :: none :: units none bytes

def decodeLossy (bytes : List UInt8) : List Char :=
  (units none bytes).map fun unit => unit.getD replacement

end Utf8

end ImageRegistry.Text
