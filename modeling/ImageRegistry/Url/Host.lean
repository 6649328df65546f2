import ImageRegistry.Text.Cut
import ImageRegistry.Text.Digits

namespace ImageRegistry.Url

open Text

def unfolding : List Nat :=
  [0x2047, 0x2048, 0x2049, 0x2100, 0x2101, 0x2105, 0x2106, 0x2A74, 0xFE13, 0xFE16, 0xFE55, 0xFE56,
   0xFE5F, 0xFE6B, 0xFF03, 0xFF0F, 0xFF1A, 0xFF1F, 0xFF20]

def isOctet (text : List Char) : Bool :=
  !text.isEmpty && text.length ≤ 3 && text.all Char.isDigit &&
    (text == ['0'] || text.head? != some '0') && decimalValue text ≤ 255

def isAddress4 (text : List Char) : Bool :=
  (pieces '.' text).length == 4 && (pieces '.' text).all isOctet

def isGroup (text : List Char) : Bool :=
  !text.isEmpty && text.length ≤ 4 && text.all fun c => (hexValue? c).isSome

-- An IPv4 address at the end stands for two groups.
def groups? (text : List Char) : Option (List (List Char)) :=
  let parts := pieces ':' text
  match parts.getLast? with
  | some last =>
      if '.' ∈ last then
        if isAddress4 last then some (parts.dropLast ++ [['0'], ['0']]) else none
      else some parts
  | none => none

def side (groups : List (List Char)) : List (List Char) :=
  if groups = [[]] then [] else groups

def isGroups (groups : List (List Char)) : Bool :=
  let inner := (groups.drop 1).dropLast
  match inner.findIdx? List.isEmpty with
  | some i =>
      let filled := side (groups.take (i + 1)) ++ side (groups.drop (i + 2))
      inner.countP List.isEmpty == 1 && filled.length ≤ 7 && filled.all isGroup
  | none => groups.length == 8 && groups.all isGroup

def withoutZone? (text : List Char) : Option (List Char) :=
  match cutFirst '%' text with
  | some (address, zone) => if zone.isEmpty || zone.contains '%' then none else some address
  | none => some text

def isAddress6 (text : List Char) : Bool :=
  match (withoutZone? text).bind groups? with
  | some groups => 3 ≤ groups.length && groups.length ≤ 9 && isGroups groups
  | none => false

def isFutureAddress (text : List Char) : Bool :=
  match cutFirst '.' text with
  | some ('v' :: version, rest) =>
      !version.isEmpty && version.all (fun c => (hexValue? c).isSome) && !rest.isEmpty
  | _ => false

def isBracketed (host : List Char) : Bool :=
  if host.head? = some 'v' then isFutureAddress host else isAddress6 host

def afterUser (authority : List Char) : List Char :=
  match cutLast '@' authority with
  | some (_, rest) => rest
  | none => authority

def isBracketedAuthority (authority : List Char) : Bool :=
  let place := afterUser authority
  match cutFirst '[' place with
  | some (before, rest) =>
      let (host, port) := (cutFirst ']' rest).getD (rest, [])
      before.isEmpty && (port.isEmpty || port.head? == some ':') && isBracketed host
  | none => isBracketed ((cutFirst ':' place).getD (place, [])).1

def isAuthority (authority : List Char) : Bool :=
  (if authority.contains '[' then authority.contains ']' && isBracketedAuthority authority
    else !authority.contains ']') &&
    authority.all fun c => !unfolding.contains c.toNat

end ImageRegistry.Url
