import ImageRegistry.Manifest.Descriptor

namespace ImageRegistry

open Json (Table)

def manifestType : String := "application/vnd.docker.distribution.manifest.v2+json"

def manifestListType : String := "application/vnd.docker.distribution.manifest.list.v2+json"

structure Manifest where
  schemaVersion : Int
  mediaType : Option String
  config : Option Descriptor
  layers : List Descriptor
  manifests : List Descriptor
  annotations : Table
  deriving Repr

namespace Manifest

def isList (manifest : Manifest) : Bool :=
  manifest.mediaType == some manifestListType || !manifest.manifests.isEmpty

def decodeSchemaVersion (members : Json.Members) : Except DecodeError Int :=
  match Json.member? "schemaVersion" members with
  | some (.int version) => .ok version
  | value => .error (.schemaVersion (value.getD .null))

def decodeLists (members : Json.Members) : Except DecodeError (List Json × List Json) :=
  match (Json.member? "layers" members).getD (.arr []),
      (Json.member? "manifests" members).getD (.arr []) with
  | .arr layers, .arr manifests => .ok (layers, manifests)
  | _, _ => .error .notLists

def decodeConfig (members : Json.Members) : Except ManifestFault (Option Descriptor) :=
  match Json.given? "config" members with
  | none => .ok none
  | some value => (Descriptor.ofJson value).map some

def ofJson (value : Json) : Except ManifestFault Manifest := do
  let members ← decoding (value.members .manifest)
  let schemaVersion ← decoding (decodeSchemaVersion members)
  let (layers, manifests) ← decoding (decodeLists members)
  let mediaType ← decoding (Json.text? "mediaType" members)
  let config ← decodeConfig members
  let layers ← layers.mapM Descriptor.ofJson
  let manifests ← manifests.mapM Descriptor.ofJson
  let annotations ← conversion (Json.orEmpty Json.toTable (Json.member? "annotations" members))
  pure { schemaVersion, mediaType, config, layers, manifests, annotations }

def decode (body : List UInt8) : Except ManifestFault Manifest := do
  ofJson (← decoding (Json.decode body))

end Manifest

end ImageRegistry
