import ImageRegistry.DecodeError
import ImageRegistry.Json.Coerce

namespace ImageRegistry

open Json (ConversionError Table)

inductive ManifestFault where
  | undecodable (error : DecodeError)
  | conversion (error : ConversionError)
  deriving Repr

structure Descriptor where
  mediaType : Json
  size : Int
  digest : String
  urls : List Json
  annotations : Table
  platform : Json
  deriving Repr

def conversion {α : Type} : Except ConversionError α → Except ManifestFault α :=
  Except.mapError .conversion

def decoding {α : Type} : Except DecodeError α → Except ManifestFault α :=
  Except.mapError .undecodable

namespace Descriptor

def required (name : String) (members : Json.Members) : Except DecodeError Json :=
  match Json.member? name members with
  | some value => .ok value
  | none => .error (.missing name)

def identity (members : Json.Members) : Except DecodeError (Int × String) := do
  let size ← required "size" members
  let digest ← required "digest" members
  match size, digest with
  | .int size, .str digest => pure (size, Text.textOf digest)
  | .int _, digest => throw (.digest digest)
  | size, _ => throw (.size size)

def ofJson (value : Json) : Except ManifestFault Descriptor := do
  let members ← decoding (value.members .descriptor)
  let (size, digest) ← decoding (identity members)
  let urls ← conversion (Json.orEmpty Json.toList (Json.member? "urls" members))
  let annotations ← conversion (Json.orEmpty Json.toTable (Json.member? "annotations" members))
  pure
    { mediaType := (Json.member? "mediaType" members).getD (Json.text "")
      size, digest, urls, annotations
      platform := (Json.member? "platform" members).getD .null }

end Descriptor

end ImageRegistry
